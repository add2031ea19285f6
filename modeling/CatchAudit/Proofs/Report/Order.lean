/-
The order of the diagnostics of a report. By line and column none comes before an earlier one, and those at one
position stay in the order in which they were found. There is one such order only.
-/
import CatchAudit.Proofs.Rule.Completion
import Mathlib

namespace CatchAudit

/-! ## Stable sorting -/

section

variable {α κ : Type} [LinearOrder κ] {key : α → κ} {items sorted : List α}

/-- The items in an order in which keys do not go down and items with one key stay as they were. -/
structure StablySorted (key : α → κ) (items sorted : List α) : Prop where
  perm : sorted.Perm items
  ascending : sorted.Pairwise fun a b => key a ≤ key b
  stable : ∀ k, sorted.filter (fun a => key a = k) = items.filter fun a => key a = k

/-- Lists with ascending keys are the same if for every key they hold the same items in the same order. -/
theorem eq_of_filter_key_eq : ∀ {xs ys : List α}, xs.Pairwise (fun a b => key a ≤ key b) →
    ys.Pairwise (fun a b => key a ≤ key b) →
    (∀ k, xs.filter (fun a => key a = k) = ys.filter fun a => key a = k) → xs = ys
  | [], [], _, _, _ => rfl
  | [], y :: ys, _, _, h => by simpa using h (key y)
  | x :: xs, [], _, _, h => by simpa using h (key x)
  | x :: xs, y :: ys, hx, hy, h => by
    have hmem : ∀ {as bs : List α}, (∀ k, as.filter (fun a => key a = k) = bs.filter fun a => key a = k) →
        ∀ a ∈ as, a ∈ bs := by
      intro as bs has a ha
      have : a ∈ as.filter fun b => key b = key a := List.mem_filter.2 ⟨ha, by simp⟩
      rw [has] at this
      exact List.mem_of_mem_filter this
    -- each head is an item of the other list, so that neither key is below the other
    have hle : ∀ {a b : α} {as : List α}, (b :: as).Pairwise (fun a b => key a ≤ key b) → a ∈ b :: as →
        key b ≤ key a := by
      intro a b as has ha
      rcases List.mem_cons.1 ha with rfl | ha
      · exact le_refl _
      · exact List.rel_of_pairwise_cons has ha
    have hkey : key x = key y :=
      le_antisymm (hle hx (hmem (fun k => (h k).symm) y List.mem_cons_self)) (hle hy (hmem h x List.mem_cons_self))
    obtain ⟨rfl, -⟩ : x = y ∧ _ := by
      have hhead := h (key x)
      rw [List.filter_cons_of_pos (by simp), List.filter_cons_of_pos (by simp [hkey])] at hhead
      exact List.cons.inj hhead
    refine congrArg (x :: ·) (eq_of_filter_key_eq hx.of_cons hy.of_cons fun k => ?_)
    have htail := h k
    rw [List.filter_cons, List.filter_cons] at htail
    split at htail
    · exact (List.cons.inj htail).2
    · exact htail

theorem stablySorted_mergeSort (key : α → κ) (items : List α) :
    StablySorted key items (items.mergeSort fun a b => decide (key a ≤ key b)) := by
  have htrans : ∀ a b c : α, decide (key a ≤ key b) = true → decide (key b ≤ key c) = true →
      decide (key a ≤ key c) = true := by
    intro a b c hab hbc
    exact decide_eq_true ((of_decide_eq_true hab).trans (of_decide_eq_true hbc))
  have htotal : ∀ a b : α, (decide (key a ≤ key b) || decide (key b ≤ key a)) = true := by
    intro a b
    simpa using le_total (key a) (key b)
  have hperm := items.mergeSort_perm fun a b => decide (key a ≤ key b)
  refine ⟨hperm, ?_, fun k => ?_⟩
  · exact (List.pairwise_mergeSort htrans htotal items).imp fun h => of_decide_eq_true h
  · -- the items with one key are in order, so that sorting keeps them in this order
    have hkeys : (items.filter fun a => key a = k).Pairwise fun a b => decide (key a ≤ key b) = true := by
      refine List.pairwise_of_forall_mem_list fun a ha b hb => decide_eq_true ?_
      have ha : key a = k := by simpa using List.of_mem_filter ha
      have hb : key b = k := by simpa using List.of_mem_filter hb
      exact (ha.trans hb.symm).le
    have hsublist := (List.sublist_mergeSort htrans htotal hkeys List.filter_sublist).filter fun a => decide (key a = k)
    rw [List.filter_filter] at hsublist
    simp only [Bool.and_self] at hsublist
    exact (hsublist.eq_of_length (hperm.filter _).length_eq.symm).symm

theorem stablySorted_iff :
    StablySorted key items sorted ↔ sorted = items.mergeSort fun a b => decide (key a ≤ key b) := by
  have hsort := stablySorted_mergeSort key items
  refine ⟨fun h => ?_, fun h => h ▸ hsort⟩
  exact eq_of_filter_key_eq h.ascending hsort.ascending fun k => (h.stable k).trans (hsort.stable k).symm

end

/-! ## Diagnostics -/

namespace Diagnostic

variable {a b d : Diagnostic}

/-- The line and the column by which `FileReport.sorted` sorts a diagnostic, if they are whole numbers. -/
def rank (d : Diagnostic) : ℤ ×ₗ ℤ := toLex (d.position?.getD (0, 0))

theorem sortKey_eq (h : d.node.CountedLocation) : d.sortKey = (.int (ofLex d.rank).1, .int (ofLex d.rank).2) := by
  obtain ⟨p, hp⟩ := Option.isSome_iff_exists.1 (position?_isSome h)
  unfold rank
  rw [hp]
  unfold position? at hp
  split at hp
  · next hkey =>
    cases hp
    exact hkey
  · cases hp

theorem notAfter_eq (ha : a.node.CountedLocation) (hb : b.node.CountedLocation) :
    a.notAfter b = decide (a.rank ≤ b.rank) := by
  obtain ⟨p, hp⟩ := Option.isSome_iff_exists.1 (position?_isSome ha)
  obtain ⟨q, hq⟩ := Option.isSome_iff_exists.1 (position?_isSome hb)
  unfold notAfter rank
  rw [hp, hq]
  rw [Bool.eq_iff_iff]
  simp [Prod.Lex.toLex_le_toLex]

end Diagnostic

namespace FileReport

variable {r : FileReport}

/-- The diagnostics in the order in which all outputs list them. -/
def inOrder (r : FileReport) : List Diagnostic := r.diagnostics.mergeSort fun a b => decide (a.rank ≤ b.rank)

theorem mem_inOrder {d : Diagnostic} : d ∈ r.inOrder ↔ d ∈ r.diagnostics := List.mem_mergeSort

theorem length_inOrder (r : FileReport) : r.inOrder.length = r.diagnostics.length := List.length_mergeSort _

theorem stablySorted_iff_inOrder {ds : List Diagnostic} :
    StablySorted Diagnostic.rank r.diagnostics ds ↔ ds = r.inOrder := stablySorted_iff

theorem sorted_eq_inOrder (h : ∀ d ∈ r.diagnostics, d.node.CountedLocation) : r.sorted = .ok r.inOrder := by
  have hcompare : ∀ a ∈ r.diagnostics, ∀ b ∈ r.diagnostics, a.notAfter b = decide (a.rank ≤ b.rank) :=
    fun a ha b hb => Diagnostic.notAfter_eq (h a ha) (h b hb)
  have hsort : (r.diagnostics.mergeSort Diagnostic.notAfter).map id =
      (r.diagnostics.map id).mergeSort fun a b => decide (a.rank ≤ b.rank) := List.map_mergeSort hcompare
  rw [List.map_id, List.map_id] at hsort
  rw [sorted_eq h, hsort, inOrder]

end FileReport

end CatchAudit
