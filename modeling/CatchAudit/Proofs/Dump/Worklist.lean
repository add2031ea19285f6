/-
The scopes of a dump, made from entries that wait on a stack. An entry that is taken off the stack has
its children made into scopes and put in its place. The invariant: the entry of a scope waits and the
scope has no children yet, or its children are those made from the child entries that are kept, in
their order. At the end nothing waits, so every scope has its children.
-/
import CatchAudit.Proofs.Dump.Entries
import CatchAudit.Proofs.Dump.Rejection

namespace CatchAudit

/-! ## Creating scopes -/

namespace Forest

variable {f g : Forest} {s t : Nat}

theorem upper?_append_left {new : List Scope} (hg : g.scopes = f.scopes ++ new) (hs : s < f.size) :
    g.upper? s = f.upper? s := by
  unfold upper? scope?
  rw [hg, List.getElem?_append_left hs]

theorem upper?_append_right {new : List Scope} (hg : g.scopes = f.scopes ++ new) (hnew : ∀ x ∈ new, x.upper = some s)
    (ht : f.size ≤ t) (htg : t < g.size) : g.upper? t = some s := by
  unfold size at ht htg
  rw [hg, List.length_append] at htg
  have hi : t - f.scopes.length < new.length := by omega
  unfold upper? scope?
  rw [hg, List.getElem?_append_right ht, List.getElem?_eq_getElem hi]
  exact hnew _ (List.getElem_mem hi)

theorem Ordered.append {new : List Scope} (hf : f.Ordered) (hg : g.scopes = f.scopes ++ new)
    (hnew : ∀ x ∈ new, x.upper = some s) (hs : s < f.size) : g.Ordered := by
  intro t scope hscope u hu
  have htg : t < g.size := (List.getElem?_eq_some_iff.1 hscope).1
  have hut : g.upper? t = some u := by rw [upper?, hscope, Option.bind_some, hu]
  by_cases ht : t < f.size
  · rw [upper?_append_left hg ht] at hut
    exact hf.upper?_lt hut
  · rw [upper?_append_right hg hnew (by omega) htg] at hut
    cases hut
    omega

/-- Scopes that are created together in `s` become its last children. -/
theorem children_append {new : List Scope} (hg : g.scopes = f.scopes ++ new) (hnew : ∀ x ∈ new, x.upper = some s) :
    g.children t = f.children t ++ if t = s then List.range' f.size new.length else [] := by
  have hsize : g.size = f.size + new.length := by simp [size, hg]
  have hupper : ∀ i < new.length, g.upper? (f.size + i) = some s := fun i hi =>
    upper?_append_right hg hnew (by omega) (by omega)
  unfold children
  rw [hsize, List.range_add, List.filter_append, List.filter_map]
  congr 1
  · apply List.filter_congr
    intro i hi
    rw [upper?_append_left hg (List.mem_range.1 hi)]
  · by_cases hts : t = s
    · rw [if_pos hts, List.filter_eq_self.2, List.range'_eq_map_range]
      intro i hi
      simp [hupper i (List.mem_range.1 hi), hts]
    · rw [if_neg hts, List.filter_eq_nil_iff.2]
      · rfl
      intro i hi
      simp [hupper i (List.mem_range.1 hi), Ne.symm hts]

theorem Ordered.children_eq_nil (hf : f.Ordered) (hs : f.size ≤ s) : f.children s = [] := by
  apply List.eq_nil_iff_forall_not_mem.2
  intro c hc
  have := hf.lt_of_mem_children hc
  have := children_lt_size hc
  omega

theorem upper?_withBindings (f : Forest) (g : Nat → List Variable) (i : Nat) :
    (f.withBindings g).upper? i = f.upper? i := by
  unfold upper?
  rw [scope?_withBindings]
  cases f.scope? i <;> rfl

theorem children_withBindings (f : Forest) (g : Nat → List Variable) (s : Nat) :
    (f.withBindings g).children s = f.children s := by
  unfold children
  simp only [size_withBindings, upper?_withBindings]

theorem Ordered.withBindings (hf : f.Ordered) (g : Nat → List Variable) : (f.withBindings g).Ordered := by
  intro s scope hscope u hu
  rw [scope?_withBindings] at hscope
  obtain ⟨scope₀, hscope₀, rfl⟩ := Option.map_eq_some_iff.1 hscope
  exact hf s scope₀ hscope₀ u hu

end Forest

namespace Dump

/-- Scopes have been filed under their `ids`, each with the number of its entry. -/
structure Building.Filed (b : Building) : Prop where
  length : b.entries.length = b.forest.size
  ids : b.ids = idTable b.entries
  keyed : ∀ entry ∈ b.entries, ∀ id, entry.member? "id" = some id → id.asKey = .ok id

theorem Building.Filed.skips {b b' : Building} {n : Nat} (hb : b.Filed) (h : b.Skips n b') : b'.Filed where
  length := by rw [h.entries, h.forest, hb.length]
  ids := by rw [h.entries, h.ids, hb.ids]
  keyed := by rw [h.entries]; exact hb.keyed

theorem idTable_append (entries : List Document) (entry : Document) :
    idTable (entries ++ [entry]) =
      ((entry.member? "id").map (·, entries.length)).toList ++ idTable entries := by
  unfold idTable
  rw [List.zipIdx_append, List.filterMap_append, List.reverse_append]
  rcases h : entry.member? "id" with _ | id <;> simp [h]

/-- The scope of an entry, before its variables are added. -/
def newScope? (places : List Place) (upper : Option Nat) (entry : Document) : Option Scope :=
  (block? places entry).map fun block => ⟨(scopeKind? entry).getD .block, block, upper, []⟩

/-- Entries with the numbers of their scopes, the first being `n`. -/
def numbered (n : Nat) (entries : List Document) : List (Nat × Document) := (entries.zipIdx n).map Prod.swap

theorem numbered_append (n : Nat) (entries more : List Document) :
    numbered n (entries ++ more) = numbered n entries ++ numbered (n + entries.length) more := by
  unfold numbered
  rw [List.zipIdx_append, List.map_append]

theorem map_fst_numbered (n : Nat) (entries : List Document) :
    (numbered n entries).map Prod.fst = List.range' n entries.length := by
  unfold numbered
  rw [List.map_map]
  exact List.zipIdx_map_snd ..

theorem map_numbered {α : Type} (g : Document → α) (n : Nat) (entries : List Document) :
    (numbered n entries).map (fun e => g e.2) = entries.map g := by
  conv_rhs => rw [← List.zipIdx_map_fst n entries, List.map_map]
  unfold numbered
  rw [List.map_map]
  rfl

theorem mem_numbered {n s : Nat} {entry : Document} {entries : List Document} :
    (s, entry) ∈ numbered n entries ↔ n ≤ s ∧ entries[s - n]? = some entry := by
  unfold numbered
  rw [← List.mk_mem_zipIdx_iff_le_and_getElem?_sub, List.mem_map]
  constructor
  · rintro ⟨⟨e, t⟩, hmem, heq⟩
    cases heq
    exact hmem
  · exact fun h => ⟨(entry, s), h, rfl⟩

/-- How many entries name no kind of scope that `scopeKind?` knows. -/
def unknownKinds (entries : List Document) : Nat := lost scopeKind? entries

variable {places : List Place} {b b' : Building}

theorem addScope_ok {kind : ScopeKind} {block : Place} {upper : Option Nat} {entry : Document} {s : Nat}
    (hb : b.Filed) (h : (addScope kind block upper entry).run b = (.ok s, b')) :
    s = b.forest.size ∧ b'.Filed ∧ b'.forest = b.forest.create kind block upper ∧
      b'.entries = b.entries ++ [entry] ∧ b'.skipped = b.skipped := by
  have h := run_modify_bind_ok (run_get_bind_ok h)
  have hsize : (b.forest.create kind block upper).size = b.forest.size + 1 := by simp [Forest.create, Forest.size]
  cases hid : entry.member? "id" with
  | none =>
    rw [hid] at h
    obtain ⟨rfl, rfl⟩ := run_pure_ok h
    refine ⟨rfl, ⟨?_, ?_, ?_⟩, rfl, rfl, rfl⟩
    · simp [hsize, hb.length]
    · simp [idTable_append, hid, hb.ids]
    · exact List.forall_mem_append.2 ⟨hb.keyed, by simp [hid]⟩
  | some id =>
    rw [hid] at h
    obtain ⟨id', hkey, h⟩ := run_lift_bind_ok h
    have h := run_modify_bind_ok h
    obtain ⟨rfl, rfl⟩ := run_pure_ok h
    have hid' := (Document.keyValue?_of_asKey hkey).1
    refine ⟨rfl, ⟨?_, ?_, ?_⟩, rfl, rfl, rfl⟩
    · simp [hsize, hb.length]
    · simp [idTable_append, hid, hb.ids, hid', hb.length]
    · exact List.forall_mem_append.2 ⟨hb.keyed, by simpa [hid, hid'] using hkey⟩

/-- The entries `ds` have been read as children of `upper`. -/
structure Building.Grows (places : List Place) (upper : Nat) (b : Building) (ds : List Document) (b' : Building) :
    Prop where
  filed : b'.Filed
  scopes : b'.forest.scopes = b.forest.scopes ++ ds.filterMap (newScope? places (some upper))
  entries : b'.entries = b.entries ++ kept places ds
  skipped : b'.skipped.length = b.skipped.length + (lost (block? places) ds + unknownKinds (kept places ds))

theorem addChild_ok {upper : Nat} {entry : Document} {made : Option (Nat × Document)} (hb : b.Filed)
    (h : (addChild places upper entry).run b = (.ok made, b')) :
    b.Grows places upper [entry] b' ∧ made.toList = numbered b.forest.size (kept places [entry]) := by
  obtain ⟨blockRef, hblock, h⟩ := run_lift_bind_ok h
  obtain ⟨found, hfound, h⟩ := run_lift_bind_ok h
  rw [Document.get_ok hblock] at hfound
  have hfound : block? places entry = found := resolve_ok hfound
  cases found with
  | none =>
    obtain ⟨id, hid, h⟩ := run_lift_bind_ok h
    obtain ⟨rfl, hskips⟩ := skip_return_ok h
    refine ⟨⟨hb.skips hskips, ?_, ?_, ?_⟩, ?_⟩
    · simp [hskips.forest, newScope?, hfound]
    · simp [hskips.entries, kept, hfound]
    · simp [hskips.skipped, lost, kept, hfound, unknownKinds]
    · simp [kept, hfound, numbered]
  | some block =>
    obtain ⟨kindOf, hkindOf, h⟩ := run_lift_bind_ok h
    obtain ⟨kind, mid, hkind, h⟩ := run_bind_ok h
    obtain ⟨s, mid', hscope, h⟩ := run_bind_ok h
    obtain ⟨rfl, rfl⟩ := run_pure_ok h
    rw [Document.get_ok hkindOf] at hkind
    obtain ⟨rfl, hskips⟩ := readKind_ok hkind
    obtain ⟨rfl, hfiled, hforest, hentries, hskipped⟩ := addScope_ok (hb.skips hskips) hscope
    refine ⟨⟨hfiled, ?_, ?_, ?_⟩, ?_⟩
    · simp [hforest, hskips.forest, newScope?, hfound, Forest.create, scopeKind?]
    · simp [hentries, hskips.entries, kept, hfound]
    · simp [hskipped, hskips.skipped, lost, kept, hfound, unknownKinds, scopeKind?, List.countP_cons]
    · simp [kept, hfound, hskips.forest, numbered]

theorem lost_append {α : Type} (read : Document → Option α) (ds es : List Document) :
    lost read (ds ++ es) = lost read ds + lost read es := List.countP_append

theorem kept_append (places : List Place) (ds es : List Document) :
    kept places (ds ++ es) = kept places ds ++ kept places es := List.filter_append ..

theorem Building.Grows.trans {upper : Nat} {b b' b'' : Building} {ds es : List Document}
    (h : b.Grows places upper ds b') (h' : b'.Grows places upper es b'') : b.Grows places upper (ds ++ es) b'' where
  filed := h'.filed
  scopes := by rw [h'.scopes, h.scopes, List.append_assoc, ← List.filterMap_append]
  entries := by rw [h'.entries, h.entries, List.append_assoc, ← kept_append]
  skipped := by
    rw [h'.skipped, h.skipped, lost_append, kept_append]
    unfold unknownKinds
    rw [lost_append]
    omega

theorem Building.Grows.size {upper : Nat} {ds : List Document} (hb : b.Filed) (h : b.Grows places upper ds b') :
    b'.forest.size = b.forest.size + (kept places ds).length := by
  rw [← h.filed.length, h.entries, List.length_append, hb.length]

theorem addChildren_ok {upper : Nat} : ∀ {ds : List Document} {made : List (Nat × Document)} {b b' : Building},
    b.Filed → (addChildren places upper ds).run b = (.ok made, b') →
    b.Grows places upper ds b' ∧ made = numbered b.forest.size (kept places ds)
  | [], made, b, b', hb, h => by
    obtain ⟨rfl, rfl⟩ := run_pure_ok h
    exact ⟨⟨hb, by simp, by simp [kept], by simp [lost, kept, unknownKinds]⟩, rfl⟩
  | entry :: rest, made, b, b', hb, h => by
    obtain ⟨first, mid, hfirst, h⟩ := run_bind_ok h
    obtain ⟨others, mid', hothers, h⟩ := run_bind_ok h
    obtain ⟨rfl, rfl⟩ := run_pure_ok h
    obtain ⟨hgrows, hmade⟩ := addChild_ok hb hfirst
    obtain ⟨hrest, hmore⟩ := addChildren_ok hgrows.filed hothers
    refine ⟨hgrows.trans hrest, ?_⟩
    rw [hmade, hmore, hgrows.size hb, ← numbered_append, ← kept_append]
    rfl

/-! ## The loop -/

/-- What has been built while entries wait on a stack, each with the number of its scope. -/
structure Growing (places : List Place) (root : Document) (b : Building) (stack : List (Nat × Document)) : Prop where
  filed : b.Filed
  head : b.entries[0]? = some root
  made : ∀ {s scope}, b.forest.scope? s = some scope → ∃ entry upper, b.entries[s]? = some entry ∧
    newScope? places upper entry = some scope
  ordered : b.forest.Ordered
  rooted : ∀ s < b.forest.size, b.forest.upper? s = none → s = 0
  waiting : ∀ {s entry}, (s, entry) ∈ stack → b.entries[s]? = some entry ∧ b.forest.children s = []
  nodup : (stack.map Prod.fst).Nodup
  closed : ∀ {s entry}, b.entries[s]? = some entry → s ∉ stack.map Prod.fst →
    (b.forest.children s).map (b.entries.getD · .null) = keptChildren places entry
  account : b.skipped.length + (stack.map fun e => lost (block? places) (e.2.holdings "childScopes")).sum =
    (b.entries.map (lostInScope places)).sum

theorem upper_newScope? {upper : Option Nat} {entry : Document} {scope : Scope}
    (h : newScope? places upper entry = some scope) : scope.upper = upper := by
  obtain ⟨block, -, rfl⟩ := Option.map_eq_some_iff.1 h
  rfl

/-- The scopes of `newScope?` are made from the entries that are `kept`, one from each. -/
theorem getElem?_newScopes (upper : Option Nat) : ∀ (ds : List Document) (i : Nat),
    (ds.filterMap (newScope? places upper))[i]? = ((kept places ds)[i]?).bind (newScope? places upper)
  | [], i => by simp [kept]
  | d :: rest, i => by
    have ih := getElem?_newScopes upper rest
    unfold kept at ih ⊢
    rcases hd : block? places d with _ | block
    · have hnone : newScope? places upper d = none := by rw [newScope?, hd, Option.map_none]
      rw [List.filterMap_cons_none hnone, List.filter_cons_of_neg (by simp [hd]), ih]
    · obtain ⟨scope, hscope⟩ : ∃ scope, newScope? places upper d = some scope := ⟨_, by rw [newScope?, hd]; rfl⟩
      rw [List.filterMap_cons_some hscope, List.filter_cons_of_pos (by simp [hd])]
      cases i with
      | zero => exact hscope.symm
      | succ i => exact ih i

theorem length_newScopes (upper : Option Nat) (ds : List Document) :
    (ds.filterMap (newScope? places upper)).length = (kept places ds).length := by
  unfold kept
  rw [List.length_filterMap_eq_countP, List.countP_eq_length_filter]
  simp [newScope?]

theorem upper_newScopes {s : Nat} {ds : List Document} :
    ∀ x ∈ ds.filterMap (newScope? places (some s)), x.upper = some s := by
  intro x hx
  obtain ⟨e, -, he⟩ := List.mem_filterMap.1 hx
  exact upper_newScope? he

theorem lostInScope_sum (entries : List Document) :
    (entries.map (lostInScope places)).sum = unknownKinds entries +
      (entries.map fun e => lost (block? places) (e.holdings "childScopes")).sum := by
  unfold unknownKinds
  induction entries with
  | nil => rfl
  | cons e rest ih =>
    rw [List.map_cons, List.sum_cons, ih, List.map_cons, List.sum_cons, lost_cons, lostInScope]
    omega

namespace Building.Grows

variable {s : Nat} {ds : List Document}

theorem entries_old (hb : b.Filed) (h : b.Grows places s ds b') {t : Nat} (ht : t < b.forest.size) :
    b'.entries[t]? = b.entries[t]? := by
  rw [h.entries, List.getElem?_append_left (by rwa [hb.length])]

theorem entries_new (hb : b.Filed) (h : b.Grows places s ds b') {t : Nat} (ht : b.forest.size ≤ t) :
    b'.entries[t]? = (kept places ds)[t - b.forest.size]? := by
  rw [h.entries, List.getElem?_append_right (by rwa [hb.length]), hb.length]

theorem children (h : b.Grows places s ds b') (t : Nat) :
    b'.forest.children t = b.forest.children t ++
      if t = s then List.range' b.forest.size (kept places ds).length else [] := by
  rw [Forest.children_append h.scopes upper_newScopes, length_newScopes]

/-- Where the building `Grows`, the children that a scope is given are made from the entries that are `kept`. -/
theorem map_children (hb : b.Filed) (h : b.Grows places s ds b') (hopen : b.forest.children s = []) :
    (b'.forest.children s).map (b'.entries.getD · .null) = kept places ds := by
  rw [h.children, hopen, if_pos rfl, List.nil_append]
  apply List.ext_getElem?
  intro i
  rw [List.getElem?_map]
  by_cases hi : i < (kept places ds).length
  · rw [List.getElem?_range' hi, Option.map_some, List.getD_eq_getElem?_getD, h.entries_new hb (by omega),
      Nat.one_mul, Nat.add_sub_cancel_left, List.getElem?_eq_getElem hi, Option.getD_some]
  · rw [List.getElem?_eq_none (by simpa using hi), List.getElem?_eq_none (by omega), Option.map_none]

/-- Where the building `Grows`, the children of another scope are the same as before, and made from the same entries.
-/
theorem map_children_of_ne (hb : b.Filed) (h : b.Grows places s ds b') {t : Nat} (hts : t ≠ s) :
    (b'.forest.children t).map (b'.entries.getD · .null) = (b.forest.children t).map (b.entries.getD · .null) := by
  rw [h.children, if_neg hts, List.append_nil]
  apply List.map_congr_left
  intro c hc
  rw [List.getD_eq_getElem?_getD, List.getD_eq_getElem?_getD, h.entries_old hb (Forest.children_lt_size hc)]

end Building.Grows

namespace Growing

variable {s : Nat} {root entry : Document} {rest : List (Nat × Document)}

theorem lt_size {t : Nat} {e : Document} {stack : List (Nat × Document)} (hb : Growing places root b stack)
    (h : (t, e) ∈ stack) : t < b.forest.size := by
  rw [← hb.filed.length]
  exact (List.getElem?_eq_some_iff.1 (hb.waiting h).1).1

/-- The entries below the top of the stack are others. -/
theorem ne_of_mem_rest (hb : Growing places root b ((s, entry) :: rest)) {t : Nat} (h : t ∈ rest.map Prod.fst) :
    t ≠ s ∧ t < b.forest.size := by
  refine ⟨fun hts => (List.nodup_cons.1 hb.nodup).1 (hts ▸ h), ?_⟩
  obtain ⟨⟨_, e⟩, hmem, rfl⟩ := List.mem_map.1 h
  exact hb.lt_size (List.mem_cons_of_mem _ hmem)

theorem made_after (hb : Growing places root b ((s, entry) :: rest))
    (hgrows : b.Grows places s (entry.holdings "childScopes") b') {t : Nat} {scope : Scope}
    (h : b'.forest.scope? t = some scope) :
    ∃ e upper, b'.entries[t]? = some e ∧ newScope? places upper e = some scope := by
  by_cases ht : t < b.forest.size
  · rw [Forest.scope?, hgrows.scopes, List.getElem?_append_left ht] at h
    rw [hgrows.entries_old hb.filed ht]
    exact hb.made h
  · have hle : b.forest.size ≤ t := by omega
    rw [Forest.scope?, hgrows.scopes, List.getElem?_append_right hle] at h
    obtain ⟨e, he, hnew⟩ := Option.bind_eq_some_iff.1 ((getElem?_newScopes ..).symm.trans h)
    exact ⟨e, some s, (hgrows.entries_new hb.filed hle).trans he, hnew⟩

/-- The new children have no children yet, and neither have those that waited before. -/
theorem waiting_after (hb : Growing places root b ((s, entry) :: rest))
    (hgrows : b.Grows places s (entry.holdings "childScopes") b') {t : Nat} {e : Document}
    (h : (t, e) ∈ numbered b.forest.size (kept places (entry.holdings "childScopes")) ++ rest) :
    b'.entries[t]? = some e ∧ b'.forest.children t = [] := by
  have hslt := hb.lt_size (List.mem_cons_self ..)
  rcases List.mem_append.1 h with hmem | hmem
  · obtain ⟨hle, hget⟩ := mem_numbered.1 hmem
    rw [hgrows.entries_new hb.filed hle, hgrows.children, hb.ordered.children_eq_nil hle, if_neg (by omega)]
    exact ⟨hget, rfl⟩
  · obtain ⟨hne, hlt⟩ := hb.ne_of_mem_rest (List.mem_map_of_mem hmem)
    obtain ⟨hget, hnil⟩ := hb.waiting (List.mem_cons_of_mem _ hmem)
    rw [hgrows.entries_old hb.filed hlt, hgrows.children, hnil, if_neg hne]
    exact ⟨hget, rfl⟩

/-- After `Grows` the entry itself is closed, and what was closed before stays so. -/
theorem closed_after (hb : Growing places root b ((s, entry) :: rest))
    (hgrows : b.Grows places s (entry.holdings "childScopes") b') {t : Nat} {e : Document}
    (hget : b'.entries[t]? = some e)
    (hwait : t ∉ (numbered b.forest.size (kept places (entry.holdings "childScopes")) ++ rest).map Prod.fst) :
    (b'.forest.children t).map (b'.entries.getD · .null) = keptChildren places e := by
  obtain ⟨hs, hopen⟩ := hb.waiting (List.mem_cons_self ..)
  rw [List.map_append, map_fst_numbered, List.mem_append, not_or] at hwait
  -- every scope that is new waits on the stack
  have ht : t < b.forest.size := by
    have hlt := (List.getElem?_eq_some_iff.1 hget).1
    rw [hgrows.filed.length, hgrows.size hb.filed] at hlt
    by_contra hle
    exact hwait.1 (List.mem_range'_1.2 ⟨by omega, hlt⟩)
  rw [hgrows.entries_old hb.filed ht] at hget
  by_cases hts : t = s
  · subst hts
    rw [hs] at hget
    cases hget
    exact hgrows.map_children hb.filed hopen
  · rw [hgrows.map_children_of_ne hb.filed hts]
    exact hb.closed hget (by simpa using ⟨hts, by simpa using hwait.2⟩)

/-- Taking an entry off the stack and putting its children in its place, by `addChildren`, keeps `Growing`. -/
theorem step {made : List (Nat × Document)} (hb : Growing places root b ((s, entry) :: rest))
    (h : (addChildren places s (entry.holdings "childScopes")).run b = (.ok made, b')) :
    Growing places root b' (made ++ rest) := by
  obtain ⟨hgrows, rfl⟩ := addChildren_ok hb.filed h
  have hslt := hb.lt_size (List.mem_cons_self ..)
  have hhead : b'.entries[0]? = some root := by rw [hgrows.entries_old hb.filed (by omega), hb.head]
  refine ⟨hgrows.filed, hhead, hb.made_after hgrows, hb.ordered.append hgrows.scopes upper_newScopes hslt, ?_,
    hb.waiting_after hgrows, ?_, hb.closed_after hgrows, ?_⟩
  · intro t ht hroot
    by_cases hlt : t < b.forest.size
    · rw [Forest.upper?_append_left hgrows.scopes hlt] at hroot
      exact hb.rooted t hlt hroot
    · rw [Forest.upper?_append_right hgrows.scopes upper_newScopes (by omega) ht] at hroot
      cases hroot
  · rw [List.map_append, map_fst_numbered]
    refine List.nodup_append'.2 ⟨List.nodup_range', (List.nodup_cons.1 hb.nodup).2, ?_⟩
    intro t ht ht'
    have hle := (List.mem_range'_1.1 ht).1
    have hlt := (hb.ne_of_mem_rest ht').2
    omega
  · -- what the entry lost among its children was still to be counted, and now has been skipped
    have hbefore := hb.account
    rw [List.map_cons, List.sum_cons] at hbefore
    dsimp only at hbefore
    rw [hgrows.skipped, hgrows.entries, List.map_append, List.sum_append, List.map_append, List.sum_append]
    rw [map_numbered fun e => lost (block? places) (e.holdings "childScopes"), lostInScope_sum (kept _ _)]
    omega

end Growing

/-! ## The end of the loop -/

/-- A text is no entry of a scope and is not `kept`. -/
theorem kept_texts (places : List Place) (texts : List String) : kept places (texts.map .text) = [] := by
  unfold kept
  rw [List.filter_eq_nil_iff]
  intro d hd
  obtain ⟨s, -, rfl⟩ := List.mem_map.1 hd
  simp [block?, target?, resolve, Document.member?]

/-- The `keptChildren` of an entry are together smaller than the entry. -/
theorem sum_size_keptChildren (places : List Place) (entry : Document) :
    ((keptChildren places entry).map Document.size).sum < entry.size := by
  have hpos := entry.size_pos
  unfold keptChildren Document.holdings
  rcases hm : entry.member? "childScopes" with _ | x
  · simpa [kept] using hpos
  have hx := Document.size_member_lt hm
  cases x with
  | list ds =>
    have hsub : ((kept places ds).map Document.size).sum ≤ (ds.map Document.size).sum :=
      (List.filter_sublist.map _).sum_le_sum fun _ _ => Nat.zero_le _
    rw [Document.size, Document.sizeItems_eq_sum] at hx
    simp only [Option.bind_some, Document.contents?, Option.getD_some]
    omega
  | text s =>
    have := kept_texts places (s.toList.map String.singleton)
    simp_all [Document.contents?, Function.comp_def]
  | object members =>
    have := kept_texts places (members.map Prod.fst)
    simp_all [Document.contents?, Function.comp_def]
  | _ => simpa [kept, Document.contents?] using hpos

theorem addScopes_ok {root : Document} : ∀ {fuel : Nat} {stack : List (Nat × Document)} {u : Unit} {b b' : Building},
    Growing places root b stack → (stack.map fun e => e.2.size).sum ≤ fuel →
    (addScopes places fuel stack).run b = (.ok u, b') → Growing places root b' []
  | fuel, [], u, b, b', hb, _, h => by
    obtain ⟨-, rfl⟩ : u = () ∧ b' = b := run_pure_ok (by cases fuel <;> exact h)
    exact hb
  | 0, (s, entry) :: rest, u, b, b', hb, hfuel, h => by
    have hpos := entry.size_pos
    simp only [List.map_cons, List.sum_cons] at hfuel
    omega
  | fuel + 1, (s, entry) :: rest, u, b, b', hb, hfuel, h => by
    obtain ⟨x, hx, h⟩ := run_lift_bind_ok h
    obtain ⟨ds, hds, h⟩ := run_lift_bind_ok h
    obtain ⟨made, mid, hmade, h⟩ := run_bind_ok h
    have hitems : items entry "childScopes" = .ok ds := by
      unfold items
      rw [hx]
      exact hds
    rw [Document.items_ok hitems] at hmade
    refine addScopes_ok (hb.step hmade) ?_ h
    -- the children that take the place of the entry are smaller, so the fuel is enough for them
    have hlt := sum_size_keptChildren places entry
    simp only [List.map_cons, List.sum_cons] at hfuel
    rw [(addChildren_ok hb.filed hmade).2, List.map_append, List.sum_append, map_numbered]
    unfold keptChildren at hlt
    omega

/-- A forest with the entries from which its scopes were made, and the number of skipped entries. -/
structure Built (places : List Place) (root : Document) (forest : Forest) (entries : List Document) (skipped : Nat) :
    Prop where
  kinds : checkKinds places = .ok ()
  length : entries.length = forest.size
  keyed : ∀ entry ∈ entries, ∀ id, entry.member? "id" = some id → id.asKey = .ok id
  head : entries[0]? = some root
  made : ∀ {s scope}, forest.scope? s = some scope → ∃ entry upper scope₀, entries[s]? = some entry ∧
    newScope? places upper entry = some scope₀ ∧ scope = { scope₀ with
      bindings := bindingsFrom places (idTable entries) s 0 (entry.holdings "variables") }
  ordered : forest.Ordered
  rooted : ∀ s < forest.size, forest.upper? s = none → s = 0
  children : ∀ {s entry}, entries[s]? = some entry →
    (forest.children s).map (entries.getD · .null) = keptChildren places entry
  account : skipped = (entries.map (lostInScope places)).sum +
    (entries.map fun entry => lostInVariables places (idTable entries) (entry.holdings "variables")).sum

/-- At first, after `addScope`, the entry of the outermost scope waits alone. -/
theorem growing_root {block : Place} {root : Document} {s : Nat} {b₀ : Building}
    (hblock : block? places root = some block)
    (hskips : Building.start.Skips (if (scopeKind? root).isNone then 1 else 0) b₀)
    (h : (addScope ((scopeKind? root).getD .block) block none root).run b₀ = (.ok s, b)) :
    Growing places root b [(s, root)] := by
  have hstart : Building.start.Filed := ⟨rfl, rfl, fun e he => by cases he⟩
  obtain ⟨rfl, hfiled, hforest, hentries, hskipped⟩ := addScope_ok (hstart.skips hskips) h
  rw [hskips.entries] at hentries
  rw [hskips.forest] at hforest ⊢
  have hscopes : b.forest.scopes = [⟨(scopeKind? root).getD .block, block, none, []⟩] := by rw [hforest]; rfl
  have hentries : b.entries = [root] := hentries
  have hhead : b.entries[0]? = some root := by rw [hentries]; rfl
  have hzero : ∀ {t}, t < b.forest.size → t = 0 := by
    intro t ht
    rw [Forest.size, hscopes, List.length_singleton] at ht
    omega
  have hchildren : b.forest.children 0 = [] := by
    apply List.eq_nil_iff_forall_not_mem.2
    intro c hc
    obtain rfl := hzero (Forest.children_lt_size hc)
    rw [Forest.mem_children, Forest.upper?, Forest.scope?, hscopes] at hc
    cases hc
  refine ⟨hfiled, hhead, ?_, ?_, fun t ht _ => hzero ht, ?_, List.nodup_singleton _, ?_, ?_⟩
  · intro t scope hscope
    obtain rfl := hzero (List.getElem?_eq_some_iff.1 hscope).1
    rw [Forest.scope?, hscopes] at hscope
    cases hscope
    exact ⟨root, none, hhead, by rw [newScope?, hblock]; rfl⟩
  · rw [hforest]
    exact Forest.empty_ordered.create _ _ fun u hu => by cases hu
  · intro t e hmem
    cases List.mem_singleton.1 hmem
    exact ⟨hhead, hchildren⟩
  · intro t e hget hwait
    have ht : t = 0 := hzero (by rw [← hfiled.length]; exact (List.getElem?_eq_some_iff.1 hget).1)
    exact absurd (by rw [ht]; exact List.mem_singleton_self _) hwait
  · rw [hskipped, hskips.skipped, hentries]
    simp [lostInScope, Building.start]

theorem Growing.bindings_eq_nil {root : Document} {stack : List (Nat × Document)} (hb : Growing places root b stack)
    (s : Nat) : b.forest.bindings s = [] := by
  unfold Forest.bindings
  rcases hs : b.forest.scope? s with _ | scope
  · rfl
  · obtain ⟨entry, upper, -, hnew⟩ := hb.made hs
    obtain ⟨block, -, rfl⟩ := Option.map_eq_some_iff.1 hnew
    rfl

/-- When nothing waits any more, `addAllVariables` can add the variables of all scopes, and the forest is `Built`. -/
theorem Growing.built {root : Document} {u : Unit} (hkinds : checkKinds places = .ok ()) (hb : Growing places root b [])
    (h : (addAllVariables places 0 b.entries).run b = (.ok u, b')) :
    Built places root b'.forest b'.entries b'.skipped.length := by
  have hturns := addAllVariables_ok (by rw [Nat.zero_add, hb.filed.length]) (fun i _ => hb.bindings_eq_nil i) h
  have haccount := hb.account
  rw [hturns.entries, hturns.forest, hturns.skipped]
  refine ⟨hkinds, ?_, hb.filed.keyed, hb.head, ?_, hb.ordered.withBindings _, ?_, ?_, ?_⟩
  · rw [Forest.size_withBindings, hb.filed.length]
  · intro s scope hscope
    rw [Forest.scope?_withBindings] at hscope
    obtain ⟨scope₀, hscope₀, rfl⟩ := Option.map_eq_some_iff.1 hscope
    obtain ⟨entry, upper, hentry, hnew⟩ := hb.made hscope₀
    refine ⟨entry, upper, scope₀, hentry, hnew, ?_⟩
    rw [hb.bindings_eq_nil, List.nil_append, hb.filed.ids]
    simp [bindingsOf, hentry]
  · intro s hs hroot
    rw [Forest.size_withBindings] at hs
    rw [Forest.upper?_withBindings] at hroot
    exact hb.rooted s hs hroot
  · intro s entry hentry
    rw [Forest.children_withBindings]
    exact hb.closed hentry List.not_mem_nil
  · rw [← hb.filed.ids]
    simp only [List.map_nil, List.sum_nil, Nat.add_zero] at haccount
    omega

theorem addRoot_ok {root : Document} (h : (addRoot places root).run Building.start = (.ok none, b)) :
    Built places root b.forest b.entries b.skipped.length := by
  obtain ⟨u, hkinds, h⟩ := run_lift_bind_ok h
  cases root with
  | object members =>
    obtain ⟨blockRef, hblock, h⟩ := run_lift_bind_ok h
    obtain ⟨found, hfound, h⟩ := run_lift_bind_ok h
    rw [Document.get_ok hblock] at hfound
    have hfound := resolve_ok hfound
    cases found with
    | none => cases h
    | some block =>
      obtain ⟨kindOf, hkindOf, h⟩ := run_lift_bind_ok h
      obtain ⟨kind, b₁, hkind, h⟩ := run_bind_ok h
      obtain ⟨s, b₂, hscope, h⟩ := run_bind_ok h
      obtain ⟨u', b₃, hscopes, h⟩ := run_bind_ok h
      have h := run_get_bind_ok h
      obtain ⟨u'', b₄, hvariables, h⟩ := run_bind_ok h
      obtain ⟨-, rfl⟩ := run_pure_ok h
      rw [Document.get_ok hkindOf] at hkind
      obtain ⟨rfl, hskips⟩ := readKind_ok hkind
      exact (addScopes_ok (growing_root hfound hskips hscope) (by simp) hscopes).built hkinds hvariables
  | _ => cases h

/-- A dump that `ofDocument` loads was `Built` from the parts of its document. -/
theorem built_of_ofDocument {d source : Document} {dump : Dump} (h : (ofDocument d source).1 = .ok dump) :
    ∃ ast scopes entries, d.member? "ast" = some ast ∧ d.member? "scopes" = some scopes ∧
      Node.ofDocument ast = .ok dump.program ∧
      Built (Place.root dump.program).walk scopes dump.forest entries dump.skipped.length := by
  obtain ⟨ast, scopes, program, hast, hscopes, hprogram, h⟩ := ofDocument_ok_iff.1 h
  unfold withScopes at h
  rcases hrun : (addRoot (Place.root program).walk scopes).run Building.start with ⟨f | _ | _ | _, b⟩
    <;> rw [hrun] at h <;> cases h
  exact ⟨ast, scopes, b.entries, hast, hscopes, hprogram, addRoot_ok hrun⟩

end Dump

end CatchAudit
