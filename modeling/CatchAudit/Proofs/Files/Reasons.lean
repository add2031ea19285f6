/-
Why a path leads nowhere. Names along the way give three reasons, a null character in the path a fourth one.
Hence a file cannot be read for a null character exactly if its path holds one, and it cannot be told whether
something is there, or whether it is a file, exactly if the path, or a name in it, is too long.
-/
import CatchAudit.Files.FileTree
import CatchAudit.Proofs.Outcome

namespace CatchAudit.FileTree

theorem follow_error : ∀ {parts : List String} {above : List Entry} {here : Entry} {reason : FileReason},
    follow above here parts = .error reason →
      reason = .noSuchFile ∨ reason = .notADirectory ∨ reason = .nameTooLong
  | [], _, _, _, h => by cases h
  | part :: rest, above, here, reason, h => by
    unfold follow at h
    cases here with
    | file bytes =>
      cases h
      exact .inr (.inl rfl)
    | directory entries =>
      dsimp only at h
      split at h
      · split at h
        · exact follow_error h
        · exact follow_error h
      · split at h
        · cases h
          exact .inr (.inr rfl)
        · split at h
          · cases h
            exact .inl rfl
          · exact follow_error h

variable (t : FileTree) (p : Path)

theorem find_nullInPath_iff : t.find p = .error .nullInPath ↔ '\x00' ∈ p.text.toList := by
  unfold find
  by_cases hnull : '\x00' ∈ p.text.toList
  · rw [if_pos (List.contains_iff_mem.2 hnull)]
    exact iff_of_true rfl hnull
  · rw [if_neg (mt List.contains_iff_mem.1 hnull)]
    refine iff_of_false (fun h => ?_) hnull
    split at h
    · cases h
    · have hreason := follow_error h
      simp at hreason

theorem read_nullInPath_iff :
    (∃ e, t.read p = .error e ∧ e.reason = .nullInPath) ↔ '\x00' ∈ p.text.toList := by
  rw [← find_nullInPath_iff]
  unfold read
  constructor
  · rintro ⟨e, he, hreason⟩
    split at he
    · cases he
    · cases he
      cases hreason
    · next reason hfind =>
      cases he
      rw [hfind]
      exact congrArg _ hreason
  · intro hfind
    rw [hfind]
    exact ⟨_, rfl, rfl⟩

theorem find_error {reason : FileReason} (h : t.find p = .error reason) :
    reason.isAbsence = true ∨ reason = .nameTooLong := by
  unfold find at h
  split at h
  · cases h
    exact .inl rfl
  · split at h
    · cases h
      exact .inr rfl
    · rcases follow_error h with rfl | rfl | rfl
      · exact .inl rfl
      · exact .inl rfl
      · exact .inr rfl

theorem look_succeeds_iff : Succeeds (t.look p) ↔ t.find p ≠ .error .nameTooLong := by
  unfold look
  cases hfind : t.find p with
  | ok e => exact iff_of_true (succeeds_ok _) (by simp)
  | error reason =>
    rcases find_error t p hfind with habsence | rfl
    · refine iff_of_true ?_ ?_
      · dsimp only
        rw [if_pos habsence]
        exact succeeds_ok _
      · rintro ⟨⟩
        cases habsence
    · refine iff_of_false ?_ (by simp)
      rintro ⟨_, ⟨⟩⟩

theorem isFile_succeeds_iff : Succeeds (t.isFile p) ↔ t.find p ≠ .error .nameTooLong := by
  rw [← look_succeeds_iff]
  unfold isFile
  rcases t.look p with e | _ | (bytes | entries)
  · exact iff_of_false (by rintro ⟨_, ⟨⟩⟩) (by rintro ⟨_, ⟨⟩⟩)
  · exact iff_of_true ⟨false, rfl⟩ (succeeds_ok _)
  · exact iff_of_true ⟨true, rfl⟩ (succeeds_ok _)
  · exact iff_of_true ⟨false, rfl⟩ (succeeds_ok _)

theorem isFile_of_isDirectory {t : FileTree} {p : Path} (h : t.isDirectory p = .ok true) : t.isFile p = .ok false := by
  unfold isDirectory at h
  unfold isFile
  rcases hlook : t.look p with e | _ | (bytes | entries) <;> rw [hlook] at h <;> cases h
  rfl

end CatchAudit.FileTree
