/-
Names in documents that are read. A member whose name was read before sets the value of the earlier
member, so that no two members of an object share a name, at any depth.
-/
import CatchAudit.Json.Reader
import CatchAudit.Proofs.Document.Reorder

namespace CatchAudit

/-! ## Setting members -/

theorem names_setMember {α : Type} (name : String) (value : α) : ∀ xs : List (String × α),
    (setMember name value xs).map Prod.fst =
      if name ∈ xs.map Prod.fst then xs.map Prod.fst else xs.map Prod.fst ++ [name]
  | [] => by simp [setMember]
  | (key, old) :: rest => by
    by_cases hkey : key = name
    · simp [setMember, hkey]
    · have hiff : name ∈ ((key, old) :: rest).map Prod.fst ↔ name ∈ rest.map Prod.fst := by simp [Ne.symm hkey]
      rw [setMember, if_neg hkey, List.map_cons, names_setMember name value rest, if_congr hiff rfl rfl]
      split <;> rfl

theorem mem_setMember {α : Type} {name : String} {value : α} {m : String × α} : ∀ {xs : List (String × α)},
    m ∈ setMember name value xs → m.2 = value ∨ m ∈ xs
  | [], h => .inl (by rw [List.mem_singleton.1 h])
  | (key, old) :: rest, h => by
    unfold setMember at h
    split at h
    · rcases List.mem_cons.1 h with rfl | h
      · exact .inl rfl
      · exact .inr (List.mem_cons_of_mem _ h)
    · rcases List.mem_cons.1 h with rfl | h
      · exact .inr (List.mem_cons_self ..)
      · exact (mem_setMember h).imp_right (List.mem_cons_of_mem _)

theorem nodup_setMember {α : Type} {name : String} {value : α} {xs : List (String × α)}
    (h : (xs.map Prod.fst).Nodup) : ((setMember name value xs).map Prod.fst).Nodup := by
  rw [names_setMember]
  split
  · exact h
  · next hname =>
    have hne : ∀ a ∈ xs.map Prod.fst, a ≠ name := fun a ha => ne_of_mem_of_not_mem ha hname
    exact List.nodup_append.2 ⟨h, List.nodup_singleton _, by simpa using hne⟩

/-! ## Reading -/

namespace Json

open Document

/-- No two members of an object share a name, at any depth and in whatever `Role` the document is read. -/
def Distinct (d : Document) : Prop := ∀ r, d.Everywhere DistinctNames r

theorem distinct_of_key {d : Document} {k : KeyValue} (h : d.keyValue? = some k) : Distinct d := by
  intro r
  cases d with
  | list items => cases h
  | object members => cases h
  | _ => exact fun members h => by cases h

theorem distinct_list {items : List Document} (h : ∀ d ∈ items, Distinct d) : Distinct (.list items) :=
  fun r => ⟨nofun, everywhereIn_iff.2 fun d hd => h d hd r.item⟩

theorem distinct_object {members : List (String × Document)} (hnames : (members.map Prod.fst).Nodup)
    (h : ∀ m ∈ members, Distinct m.2) : Distinct (.object members) := by
  refine fun r => ⟨fun ms hms => ?_, everywhereUnder_iff.2 fun m hm => h m hm _⟩
  cases hms
  exact hnames

/-- What is read, if anything, is `Distinct`. -/
def ReadsDistinct (x : Except JsonFault (Document × Cursor)) : Prop :=
  Answers (fun _ => True) (fun read => Distinct read.1) x

theorem scanText_answers (start : Nat) (done : List Char) (position : Nat) (cs : List Char) :
    Answers (fun _ => True) (fun _ => True) (scanText start done position cs) := by
  cases scanText start done position cs <;> trivial

theorem ReadsDistinct.ite {p : Prop} [Decidable p] {x y : Except JsonFault (Document × Cursor)} (hx : ReadsDistinct x)
    (hy : ReadsDistinct y) : ReadsDistinct (if p then x else y) := by
  split
  · exact hx
  · exact hy

theorem scanNumber_distinct (c : Cursor) : ReadsDistinct (scanNumber c) :=
  .ite trivial (.ite (.ite trivial (distinct_of_key rfl)) (distinct_of_key rfl))

theorem words_distinct : ∀ w ∈ words, Distinct w.2 := by
  simp only [words, List.forall_mem_cons]
  exact ⟨distinct_of_key rfl, distinct_of_key rfl, distinct_of_key rfl, distinct_of_key rfl, distinct_of_key rfl,
    distinct_of_key rfl, nofun⟩

mutual
theorem scanValue_distinct : ∀ (fuel : Nat) (c : Cursor), ReadsDistinct (scanValue fuel c)
  | 0, _ => by
    rw [scanValue]
    trivial
  | fuel + 1, c => by
    rw [scanValue]
    split
    · exact (scanText_answers ..).bind fun _ _ => distinct_of_key rfl
    · dsimp only
      split
      · exact distinct_object List.nodup_nil nofun
      · exact (scanMembers_distinct fuel [] _ ⟨List.nodup_nil, nofun⟩).bind fun _ h => distinct_object h.1 h.2
    · dsimp only
      split
      · exact distinct_list nofun
      · exact (scanItems_distinct fuel [] _ nofun).bind fun _ h => distinct_list h
    · split
      · next word d hfind => exact words_distinct _ (List.mem_of_find?_eq_some hfind)
      · exact scanNumber_distinct c

theorem scanItems_distinct : ∀ (fuel : Nat) (done : List Document) (c : Cursor), (∀ d ∈ done, Distinct d) →
    Answers (fun _ => True) (fun read => ∀ d ∈ read.1, Distinct d) (scanItems fuel done c)
  | 0, _, _, _ => by
    rw [scanItems]
    trivial
  | fuel + 1, done, c, h => by
    rw [scanItems]
    refine (scanValue_distinct fuel c).bind fun read hread => ?_
    have hdone : ∀ d ∈ read.1 :: done, Distinct d := List.forall_mem_cons.2 ⟨hread, h⟩
    dsimp only
    split
    · exact fun d hd => hdone d (List.mem_reverse.1 hd)
    · exact scanItems_distinct fuel _ _ hdone
    · trivial

theorem scanMembers_distinct : ∀ (fuel : Nat) (done : List (String × Document)) (c : Cursor),
    (done.map Prod.fst).Nodup ∧ (∀ m ∈ done, Distinct m.2) →
    Answers (fun _ => True) (fun read => (read.1.map Prod.fst).Nodup ∧ ∀ m ∈ read.1, Distinct m.2)
      (scanMembers fuel done c)
  | 0, _, _, _ => by
    rw [scanMembers]
    trivial
  | fuel + 1, done, c, h => by
    rw [scanMembers]
    split
    · refine (scanText_answers ..).bind fun name _ => ?_
      dsimp only
      split
      · refine (scanValue_distinct fuel _).bind fun read hread => ?_
        have hdone : ∀ m ∈ setMember name.1 read.1 done, Distinct m.2 := by
          intro m hm
          rcases mem_setMember hm with heq | hm
          · rw [heq]
            exact hread
          · exact h.2 m hm
        split
        · exact ⟨nodup_setMember h.1, hdone⟩
        · exact scanMembers_distinct fuel _ _ ⟨nodup_setMember h.1, hdone⟩
        · trivial
      · trivial
    · trivial
end

/-- In a document that `parse` reads from a text no two members of an object share a name. -/
theorem parse_distinct {source : List Char} {d : Document} (h : parse source = .ok d) (r : Role) :
    d.Everywhere DistinctNames r := by
  unfold parse at h
  split at h
  · cases h
  · obtain ⟨⟨d', c⟩, hscan, h⟩ := bind_ok h
    have hdistinct : ReadsDistinct (.ok (d', c)) := hscan ▸ scanValue_distinct _ _
    dsimp only at h
    split at h
    · cases h
      exact hdistinct r
    · cases h

end Json

end CatchAudit
