/-
Messages are filled exactly and in one pass. A template is read as a concatenation of literals without braces and of
placeholders. The pattern `placeholder` matches each of them as a whole, with its key as the group, and nothing in a
literal. So a placeholder whose key has a value gives way to the value, whatever this holds, and each other one stays as
it stands, with its blanks. The message of an unhandled binding is made of its name and of the addition and of nothing
else.
-/
import CatchAudit.Proofs.Outcome
import CatchAudit.Proofs.Pattern.Rows
import CatchAudit.Proofs.Pattern.Running
import CatchAudit.Rule.UnhandledCatch
import Mathlib

namespace CatchAudit

namespace Message

open Pattern

theorem parse_placeholder : SearchPattern.parse placeholder.source = .ok placeholder := by cbv

/-! ## Templates in fragments -/

def isBrace (c : Char) : Bool := c == '\x7b' || c == '\x7d'

/-- A `key` between double braces, with blanks around it. The key is not empty, has no brace in it, and neither begins
nor ends with a blank. -/
structure Slot where
  before : List Char
  key : List Char
  after : List Char
  before_blank : ∀ c ∈ before, Text.isBlank c = true
  after_blank : ∀ c ∈ after, Text.isBlank c = true
  key_ne_nil : key ≠ []
  key_braceless : ∀ c ∈ key, isBrace c = false
  key_first : ∀ c ∈ key.head?, Text.isBlank c = false
  key_last : ∀ c ∈ key.getLast?, Text.isBlank c = false

/-- A literal without braces, or a `Slot`. -/
inductive Fragment where
  | literal (cs : List Char) (braceless : ∀ c ∈ cs, isBrace c = false)
  | slot (s : Slot)

namespace Slot

def text (s : Slot) : List Char :=
  '\x7b' :: '\x7b' :: (s.before ++ (s.key ++ (s.after ++ ['\x7d', '\x7d'])))

/-- The text that `toText` gives of the value of the key; without a value, the placeholder as it stands. -/
def filled (data : List (String × Document)) (s : Slot) : Except Fault (List Char) :=
  match memberOf? (String.ofList s.key) data with
  | some value => value.toText.map String.toList
  | none => .ok s.text

end Slot

def Fragment.text : Fragment → List Char
  | .literal cs _ => cs
  | .slot s => s.text

def Fragment.filled (data : List (String × Document)) : Fragment → Except Fault (List Char)
  | .literal cs _ => .ok cs
  | .slot s => s.filled data

/-- The text in a place of texts, which `Fragment.filled` fills in as it is. -/
def Fragment.filledBy (data : List (String × String)) : Fragment → List Char
  | .literal cs _ => cs
  | .slot s => ((memberOf? (String.ofList s.key) data).map String.toList).getD s.text

/-- Data of which every value is a text. -/
def texts (data : List (String × String)) : List (String × Document) :=
  data.map fun (key, value) => (key, .text value)

theorem memberOf?_texts (name : String) : ∀ data : List (String × String),
    memberOf? name (texts data) = (memberOf? name data).map .text
  | [] => rfl
  | (key, value) :: rest => by
    have ih := memberOf?_texts name rest
    rw [texts] at ih ⊢
    rw [List.map_cons, memberOf?, memberOf?, ih]
    split <;> rfl

theorem filled_texts (data : List (String × String)) (f : Fragment) :
    f.filled (texts data) = .ok (f.filledBy data) := by
  cases f with
  | literal cs _ => rfl
  | slot s =>
    rw [Fragment.filled, Slot.filled, memberOf?_texts, Fragment.filledBy]
    cases memberOf? (String.ofList s.key) data <;> rfl

theorem Fragment.filledBy_nil (f : Fragment) : f.filledBy [] = f.text := by
  cases f <;> rfl

/-! ## The steps of the pattern -/

variable {text : Array Char} {i : Nat} {s : Progress} {c : Char} {before key after rest : List Char}

/-- The test that `\s` is read as. -/
def blankTest : CharTest := .set .none false [.category false false .space]

/-- The test for a character of a key. -/
def keyTest : CharTest := .set .none true [.exact 0x7b 0x7b, .exact 0x7d 0x7d]

def closingBraces : List PatternStep := [character '\x7d', character '\x7d']

/-- Blanks and braces after a key. -/
def closing : List PatternStep := .row .greedy 0 none blankTest :: closingBraces

/-- A key, with what closes it. -/
def keyed : List PatternStep := .mark 0 :: .row .lazy 1 none keyTest :: .mark 1 :: closing

theorem ofParts_placeholder : PatternStep.ofParts placeholder.flags placeholder.pattern =
    character '\x7b' :: character '\x7b' :: .row .greedy 0 none blankTest :: keyed := by rfl

theorem accepts_blankTest (c : Char) : blankTest.accepts c = Text.isBlank c := by
  simp [blankTest, CharTest.accepts, Piece.accepts, Category.accepts, Fold.lower]

theorem accepts_keyTest (c : Char) : keyTest.accepts c = !isBrace c := by
  have hpiece : ∀ d : Char, Piece.accepts .none c (.exact d.toNat d.toNat) = (c == d) := by
    intro d
    rw [Bool.eq_iff_iff, beq_iff_eq, ← Char.toNat_inj]
    have hlower : Fold.lower .none c.toNat = c.toNat := rfl
    rw [Piece.accepts, hlower, Piece.accepts.within, Bool.and_eq_true, decide_eq_true_iff, decide_eq_true_iff, and_comm]
    exact le_antisymm_iff.symm
  have hopen := hpiece '\x7b'
  have hclose := hpiece '\x7d'
  have htest : keyTest = .set .none true [.exact '\x7b'.toNat '\x7b'.toNat, .exact '\x7d'.toNat '\x7d'.toNat] := rfl
  rw [htest, CharTest.accepts, List.any_cons, List.any_cons, List.any_nil, hopen, hclose, Bool.or_false, Bool.bne_true]
  rfl

/-- What does not end with a blank has a character for which `isBlank` fails. -/
theorem exists_cons_of_last (hne : key ≠ []) (hlast : ∀ c ∈ key.getLast?, Text.isBlank c = false) :
    ∃ c others, key.dropWhile Text.isBlank = c :: others ∧ Text.isBlank c = false := by
  have hdrop : key.dropWhile Text.isBlank ≠ [] := by
    intro hnil
    have hall := List.dropWhile_eq_nil_iff.1 hnil _ (List.getLast_mem hne)
    rw [hlast _ (List.getLast?_eq_some_getLast hne)] at hall
    cases hall
  obtain ⟨c, others, hcons⟩ := List.exists_cons_of_ne_nil hdrop
  refine ⟨c, others, hcons, ?_⟩
  have hhead := List.head_dropWhile_not Text.isBlank hdrop
  simpa [hcons] using hhead

/-! ## What closes a key -/

theorem passes_left (h : IsLeft text i (c :: rest)) (d : Char) :
    passes text (.point .none false d.toNat) i = (c == d) := by
  rw [h.passes_eq, List.head?_cons, Option.any_some, Bool.eq_iff_iff]
  simp [CharTest.accepts, Fold.lower, Char.toNat_inj]

theorem runSteps_closingBraces (h : IsLeft text i ('\x7d' :: '\x7d' :: rest)) :
    runSteps text false closingBraces .done i s = (true, s.moved (i + 2)) := by
  have hfirst := passes_left h '\x7d'
  have hsecond := passes_left h.next '\x7d'
  rw [closingBraces, character, runSteps_one_of_passes hfirst, runSteps_one_of_passes hsecond, runSteps]
  rfl

/-- What starts with `closingBraces` is `Blocked` where no closing brace stands. -/
theorem blocked_closingBraces_iff :
    Rest.Blocked text ⟨firstOf .done closingBraces, runSteps text false closingBraces .done⟩ i ↔
    text[i]? ≠ some '\x7d' := by
  have hpoint : (firstOf .done closingBraces).bind (·.point?) = some '\x7d'.toNat := rfl
  unfold Rest.Blocked
  dsimp only
  rw [hpoint, Option.any_some, bne_iff_ne, ne_eq, ne_eq, not_iff_not]
  constructor
  · intro h
    obtain ⟨c, hc, hcode⟩ := Option.map_eq_some_iff.1 h
    rw [hc, Char.toNat_inj.1 hcode]
  · intro h
    rw [h, Option.map_some]

theorem runSteps_closing (h : IsLeft text i (after ++ '\x7d' :: '\x7d' :: rest))
    (hafter : ∀ c ∈ after, Text.isBlank c = true) :
    runSteps text false closing .done i s = (true, s.moved (i + after.length + 2)) := by
  rw [closing, runSteps_row]
  refine runRow_greedy_of_leads h (fun c hc => (accepts_blankTest c).trans (hafter c hc)) ?_ ?_ ?_
  · rw [List.head?_cons, Option.any_some, accepts_blankTest]
    decide
  · rw [blocked_closingBraces_iff, not_not, h.past.getElem?_zero]
    rfl
  · exact runSteps_closingBraces h.past

/-- Before the end of a key, the steps of `closing` find blanks followed by no closing brace. -/
theorem runSteps_closing_of_key (h : IsLeft text i (key ++ rest)) (hne : key ≠ []) (hkey : ∀ c ∈ key, isBrace c = false)
    (hlast : ∀ c ∈ key.getLast?, Text.isBlank c = false) :
    ∃ cursor, runSteps text false closing .done i s = (false, s.moved cursor) := by
  obtain ⟨c, others, hdrop, hc⟩ := exists_cons_of_last hne hlast
  have hsplit := List.takeWhile_append_dropWhile (p := Text.isBlank) (l := key)
  rw [hdrop] at hsplit
  rw [← hsplit, List.append_assoc, List.cons_append] at h
  rw [closing, runSteps_row]
  refine runRow_greedy_of_blocked h (fun d hd => (accepts_blankTest d).trans (List.mem_takeWhile_imp hd)) ?_
    fun e he => ?_
  · rw [List.head?_cons, Option.any_some, accepts_blankTest, hc]
  · rw [blocked_closingBraces_iff, h.getElem?_add]
    have hmem : ∀ d, (key.takeWhile Text.isBlank ++ c :: (others ++ rest))[e]? = some d → d ∈ key := by
      intro d hd
      rw [← hsplit]
      rw [← List.cons_append, ← List.append_assoc, List.getElem?_append_left (by simp; omega)] at hd
      exact List.mem_of_getElem? hd
    exact fun hbrace => absurd (hkey _ (hmem _ hbrace)) (by decide)

/-! ## A placeholder is matched as a whole -/

/-- A key is matched by the steps of `keyed` up to its end, whatever closes it, and its ends are marked. -/
theorem runSteps_keyed (h : IsLeft text i (key ++ (after ++ '\x7d' :: '\x7d' :: rest))) (hne : key ≠ [])
    (hkey : ∀ c ∈ key, isBrace c = false) (hlast : ∀ c ∈ key.getLast?, Text.isBlank c = false)
    (hafter : ∀ c ∈ after, Text.isBlank c = true) (hs : s.marks = #[]) :
    runSteps text false keyed .done i s =
      (true, ⟨i + key.length + after.length + 2, #[some i, some (i + key.length)]⟩) := by
  obtain ⟨c, row, rfl⟩ := List.exists_cons_of_ne_nil hne
  have hmarked : ∀ (u : Progress) (p : Nat), u.marks = #[some i] → (u.marked 1 p).marks = #[some i, some p] := by
    rintro ⟨cursor, marks⟩ p rfl
    rfl
  rw [keyed, runSteps_mark, runSteps_row]
  -- each shorter key is tried first; what closes a key must fail after it and keep the first mark
  refine runRow_lazy_of_leads #[some i] h (fun d hd => ?_) (fun earlier u hearlier hu j hj => ?_)
    (fun u hu => ?_) (by rw [Progress.marked, hs]; rfl)
  · rw [accepts_keyTest, hkey d hd]
    rfl
  · -- the key goes on here, and its last character is not blank
    have hsplit : c :: row = (c :: row).take (1 + j) ++ (c :: row).drop (1 + j) := (List.take_append_drop ..).symm
    have hlength : ((c :: row).take (1 + j)).length = 1 + j := by
      rw [List.length_take, List.length_cons]
      omega
    rw [hsplit, List.append_assoc] at h
    have hleft := h.past
    rw [hlength, ← Nat.add_assoc] at hleft
    have hrest : (c :: row).drop (1 + j) ≠ [] := by
      rw [ne_eq, List.drop_eq_nil_iff, List.length_cons]
      omega
    have hend : ((c :: row).drop (1 + j)).getLast? = (c :: row).getLast? := by
      rw [List.getLast?_drop, if_neg (by rw [List.length_cons]; omega)]
    obtain ⟨cursor, hrun⟩ := runSteps_closing_of_key (s := u.marked 1 (i + 1 + j)) hleft hrest
      (fun d hd => hkey d (List.mem_of_mem_drop hd)) (by rw [hend]; exact hlast)
    refine ⟨_, (runSteps_mark 1).trans hrun, ?_⟩
    unfold Progress.rewound Progress.moved
    dsimp only
    rw [hmarked u _ hu, hearlier]
    rfl
  · have hleft := h.past
    have hlength : i + (c :: row).length = i + 1 + row.length := by
      rw [List.length_cons]
      omega
    rw [hlength] at hleft ⊢
    refine (runSteps_mark 1).trans ((runSteps_closing hleft hafter).trans ?_)
    unfold Progress.moved
    rw [hmarked u _ hu]

/-- Where a `Slot` stands, `placeholder` matches all of it, and its group is the key. -/
theorem matchAt?_slot (slot : Slot) (h : IsLeft text i (slot.text ++ rest)) :
    placeholder.matchAt? text i = some ⟨i + slot.text.length,
      #[some (i + 2 + slot.before.length), some (i + 2 + slot.before.length + slot.key.length)]⟩ := by
  have hkey : 1 ≤ slot.key.length := List.length_pos_iff.2 slot.key_ne_nil
  have htext : slot.text.length = slot.before.length + slot.key.length + slot.after.length + 4 := by
    simp only [Slot.text, List.length_cons, List.length_append, List.length_nil]
    omega
  -- the engine tries the pattern only where enough characters are left
  have htried : placeholder.isTriedAt text i = true := by
    have hsize := h.size_eq
    rw [List.length_append, htext] at hsize
    have hroom : i + placeholder.least ≤ text.size := by
      show i + 5 ≤ text.size
      omega
    have hset : startSet? placeholder.flags placeholder.pattern = none := rfl
    rw [SearchPattern.isTriedAt, decide_eq_true hroom, Bool.true_and, startsAt, hset, Bool.or_true]
  have hleft : IsLeft text i
      ('\x7b' :: '\x7b' :: (slot.before ++ (slot.key ++ (slot.after ++ '\x7d' :: '\x7d' :: rest)))) := by
    simpa [Slot.text] using h
  have hrun : runSteps text false (PatternStep.ofParts placeholder.flags placeholder.pattern) .done i ⟨i, #[]⟩ =
      (true, ⟨i + 2 + slot.before.length + slot.key.length + slot.after.length + 2,
        #[some (i + 2 + slot.before.length), some (i + 2 + slot.before.length + slot.key.length)]⟩) := by
    have hfirst := passes_left hleft '\x7b'
    have hsecond := passes_left hleft.next '\x7b'
    rw [ofParts_placeholder, character, runSteps_one_of_passes hfirst, runSteps_one_of_passes hsecond, runSteps_row]
    refine runRow_greedy_of_leads hleft.next.next
      (fun c hc => (accepts_blankTest c).trans (slot.before_blank c hc)) ?_ ?_ ?_
    · obtain ⟨c, cs, hcs⟩ := List.exists_cons_of_ne_nil slot.key_ne_nil
      rw [hcs, List.cons_append, List.head?_cons, Option.any_some, accepts_blankTest]
      exact slot.key_first c (by rw [hcs]; rfl)
    · exact Bool.false_ne_true
    · exact runSteps_keyed hleft.next.next.past slot.key_ne_nil slot.key_braceless slot.key_last slot.after_blank rfl
  have hcursor : i + 2 + slot.before.length + slot.key.length + slot.after.length + 2 = i + slot.text.length := by omega
  rw [SearchPattern.matchAt?, htried, if_pos rfl, hrun, hcursor]

/-- No match of `placeholder` begins with anything but a brace. -/
theorem matchAt?_of_not_isBrace (h : IsLeft text i (c :: rest)) (hc : isBrace c = false) :
    placeholder.matchAt? text i = none := by
  have hpass : passes text (.point .none false '\x7b'.toNat) i = false := by
    rw [passes_left h]
    exact (Bool.or_eq_false_iff.1 hc).1
  rw [SearchPattern.matchAt?, ofParts_placeholder, character, runSteps_one_of_not_passes hpass]
  exact ite_self none

/-! ## One pass -/

variable {data : List (String × Document)} {position : Nat} {left : List Char}

/-- The characters of a match that has been replaced are passed over by `fillFrom`. -/
theorem fillFrom_skip : ∀ (passed : List Char) (position : Nat),
    fillFrom data text passed.length position (passed ++ left) = fillFrom data text 0 (position + passed.length) left
  | [], _ => rfl
  | c :: passed, position => by
    rw [List.length_cons, List.cons_append, fillFrom, fillFrom_skip passed (position + 1), Nat.add_right_comm,
      Nat.add_assoc]

theorem fillFrom_literal : ∀ {cs : List Char} {position : Nat}, IsLeft text position (cs ++ left) →
    (∀ c ∈ cs, isBrace c = false) →
    fillFrom data text 0 position (cs ++ left) = (fillFrom data text 0 (position + cs.length) left).map (cs ++ ·)
  | [], position, _, _ => by
    rw [List.length_nil, Nat.add_zero, List.nil_append]
    cases fillFrom data text 0 position left <;> rfl
  | c :: cs, position, h, hcs => by
    obtain ⟨hc, hcs⟩ := List.forall_mem_cons.1 hcs
    have hlength : position + 1 + cs.length = position + (c :: cs).length := by
      rw [List.length_cons]
      omega
    rw [List.cons_append, fillFrom, matchAt?_of_not_isBrace h hc, fillFrom_literal h.next hcs, hlength]
    cases fillFrom data text 0 (position + (c :: cs).length) left <;> rfl

/-- The key that `replacement` looks up is that of the `Slot`, and what has no value stays as it is. -/
theorem replacement_slot (data : List (String × Document)) (slot : Slot)
    (h : IsLeft text position (slot.text ++ left)) :
    replacement data text position ⟨position + slot.text.length,
      #[some (position + 2 + slot.before.length), some (position + 2 + slot.before.length + slot.key.length)]⟩ =
      slot.filled data := by
  have hkey : (text.extract (position + 2 + slot.before.length)
      (position + 2 + slot.before.length + slot.key.length)).toList = slot.key := by
    have hleft : IsLeft text position (('\x7b' :: '\x7b' :: slot.before) ++
        (slot.key ++ (slot.after ++ '\x7d' :: '\x7d' :: left))) := by simpa [Slot.text] using h
    have hstart : position + ('\x7b' :: '\x7b' :: slot.before).length = position + 2 + slot.before.length := by
      rw [List.length_cons, List.length_cons]
      omega
    have hpast := hleft.past
    rw [hstart] at hpast
    exact hpast.extract_eq
  have hspan : Progress.span? ⟨position + slot.text.length,
      #[some (position + 2 + slot.before.length), some (position + 2 + slot.before.length + slot.key.length)]⟩ 1 =
      some (position + 2 + slot.before.length, position + 2 + slot.before.length + slot.key.length) :=
    if_pos (Nat.le_add_right ..)
  unfold replacement Slot.filled
  dsimp only
  rw [hspan, Option.bind_some, hkey]
  cases memberOf? (String.ofList slot.key) data with
  | none => exact congrArg Except.ok h.extract_eq
  | some value => rfl

theorem fillFrom_slot (slot : Slot) (h : IsLeft text position (slot.text ++ left)) :
    fillFrom data text 0 position (slot.text ++ left) = do
      let here ← slot.filled data
      return here ++ (← fillFrom data text 0 (position + slot.text.length) left) := by
  obtain ⟨c, cs, hcs⟩ : ∃ c cs, slot.text = c :: cs := ⟨_, _, rfl⟩
  have hmatch := matchAt?_slot slot h
  have hreplaced := replacement_slot data slot h
  have hskip : position + slot.text.length - position - 1 = cs.length := by
    rw [hcs, List.length_cons]
    omega
  have hlength : position + 1 + cs.length = position + slot.text.length := by
    rw [hcs, List.length_cons]
    omega
  have hrest : fillFrom data text (position + slot.text.length - position - 1) (position + 1) (cs ++ left) =
      fillFrom data text 0 (position + slot.text.length) left := by
    rw [hskip, fillFrom_skip, hlength]
  generalize slot.text = whole at *
  subst hcs
  rw [List.cons_append, fillFrom, hmatch]
  dsimp only
  rw [hreplaced, hrest]

theorem fillFrom_fragments : ∀ {fragments : List Fragment} {position : Nat},
    IsLeft text position (fragments.flatMap Fragment.text) →
    fillFrom data text 0 position (fragments.flatMap Fragment.text) =
      (fragments.mapM (Fragment.filled data)).map List.flatten
  | [], _, _ => rfl
  | .literal cs hcs :: rest, position, h => by
    rw [List.flatMap_cons] at h ⊢
    rw [Fragment.text] at h ⊢
    rw [fillFrom_literal h hcs, fillFrom_fragments h.past, List.mapM_cons, Fragment.filled]
    cases rest.mapM (Fragment.filled data) <;> rfl
  | .slot slot :: rest, position, h => by
    rw [List.flatMap_cons] at h ⊢
    rw [Fragment.text] at h ⊢
    rw [fillFrom_slot slot h, fillFrom_fragments h.past, List.mapM_cons, Fragment.filled]
    cases slot.filled data with
    | error e => rfl
    | ok here => cases rest.mapM (Fragment.filled data) <;> rfl

/-- Filled with texts, no fragment meets a fault. -/
theorem mapM_filled_texts (fragments : List Fragment) (data : List (String × String)) :
    fragments.mapM (Fragment.filled (texts data)) = .ok (fragments.map (Fragment.filledBy data)) := by
  induction fragments with
  | nil => rfl
  | cons fragment rest ih =>
    rw [List.mapM_cons, filled_texts, ih]
    rfl

theorem fill_fragments (fragments : List Fragment) (data : List (String × Document)) :
    fill (String.ofList (fragments.flatMap Fragment.text)) data =
      (fragments.mapM (Fragment.filled data)).map fun parts => String.ofList parts.flatten := by
  cases data with
  | nil =>
    have hfilled := mapM_filled_texts fragments []
    rw [texts, List.map_nil] at hfilled
    rw [hfilled, List.map_congr_left fun f _ => Fragment.filledBy_nil f]
    rfl
  | cons member others =>
    unfold fill
    rw [if_neg (by simp), String.toList_ofList, fillFrom_fragments (IsLeft.start _)]
    cases fragments.mapM (Fragment.filled (member :: others)) <;> rfl

/-- Filled with texts, `fill` has a result, whatever the texts are. -/
theorem fill_texts (fragments : List Fragment) (data : List (String × String)) :
    fill (String.ofList (fragments.flatMap Fragment.text)) (texts data) =
      .ok (String.ofList (fragments.flatMap (Fragment.filledBy data))) := by
  rw [fill_fragments, mapM_filled_texts, List.flatMap_def]
  rfl

theorem Slot.filled_succeeds_iff (slot : Slot) :
    Succeeds (slot.filled data) ↔
      ∀ value, memberOf? (String.ofList slot.key) data = some value → value.isWritable = true := by
  unfold filled
  cases memberOf? (String.ofList slot.key) data with
  | none => simp [Succeeds]
  | some value =>
    unfold Document.toText
    cases hwritable : value.isWritable <;> simp [Succeeds, Except.map, hwritable]

/-- `fill` fails only where a value that is asked for cannot be written by `toText`. -/
theorem fill_succeeds_iff (fragments : List Fragment) (data : List (String × Document)) :
    Succeeds (fill (String.ofList (fragments.flatMap Fragment.text)) data) ↔
      ∀ slot, Fragment.slot slot ∈ fragments → ∀ value, memberOf? (String.ofList slot.key) data = some value →
        value.isWritable = true := by
  have hmap : Succeeds (fill (String.ofList (fragments.flatMap Fragment.text)) data) ↔
      Succeeds (fragments.mapM (Fragment.filled data)) := by
    rw [fill_fragments]
    cases fragments.mapM (Fragment.filled data) <;> simp [Succeeds, Except.map]
  rw [hmap, succeeds_mapM_iff]
  constructor
  · exact fun h slot hslot => slot.filled_succeeds_iff.1 (h _ hslot)
  · rintro h (⟨cs, hcs⟩ | slot) hfragment
    · exact succeeds_ok cs
    · exact slot.filled_succeeds_iff.2 (h slot hfragment)

end Message

/-! ## The message of an unhandled binding -/

namespace UnhandledCatch

open Message

def literalOf (s : String) (h : s.toList.all (fun c => !isBrace c) = true) : Fragment :=
  .literal s.toList (by simpa using h)

/-- A `Slot` without blanks. -/
def slotOf (key : String) (hne : key.toList ≠ []) (h : key.toList.all (fun c => !isBrace c && !Text.isBlank c) = true) :
    Fragment :=
  have hplain : ∀ c ∈ key.toList, isBrace c = false ∧ Text.isBlank c = false := by simpa using h
  .slot {
    before := []
    key := key.toList
    after := []
    before_blank := by simp
    after_blank := by simp
    key_ne_nil := hne
    key_braceless := fun c hc => (hplain c hc).1
    key_first := fun c hc => (hplain c (List.mem_of_mem_head? hc)).2
    key_last := fun c hc => (hplain c (List.mem_of_getLast? hc)).2 }

def unhandledFragments : List Fragment :=
  [literalOf "'" (by decide), slotOf "errorName" (by decide) (by decide),
    literalOf "' error is caught but never handled" (by decide), slotOf "additional" (by decide) (by decide),
    literalOf "." (by decide)]

theorem unhandledTemplate_eq : unhandledTemplate = String.ofList (unhandledFragments.flatMap Fragment.text) := by
  decide +kernel

/-- The message of an unhandled binding: its name in quotes, and what `addition` puts after it. -/
def unhandledMessage (options : RuleOptions) (v : Variable) : String :=
  "'" ++ v.name ++ "' error is caught but never handled" ++ addition options v ++ "."

theorem fill_unhandledTemplate (options : RuleOptions) (v : Variable) :
    fill unhandledTemplate (messageData options v) = .ok (unhandledMessage options v) := by
  have hname : memberOf? "errorName" (messageData options v) = some (.text v.name) := rfl
  have hadditional : memberOf? "additional" (messageData options v) = some (.text (addition options v)) := rfl
  have hfilled : unhandledFragments.mapM (Fragment.filled (messageData options v)) =
      .ok ["'".toList, v.name.toList, "' error is caught but never handled".toList, (addition options v).toList,
        ".".toList] := by
    simp only [unhandledFragments, List.mapM_cons, List.mapM_nil, Fragment.filled, Slot.filled, literalOf, slotOf,
      String.ofList_toList, hname, hadditional]
    rfl
  rw [unhandledTemplate_eq, fill_fragments, hfilled, unhandledMessage, Except.map]
  simp only [List.flatten_cons, List.flatten_nil, List.append_nil, String.ofList_append, String.ofList_toList,
    String.append_assoc]

/-- The diagnostic with the `unhandledMessage` of a binding, at the place to blame. -/
def bindingDiagnostic (options : RuleOptions) (severity : Severity) (v : Variable) (p : Place) : Diagnostic where
  ruleId := ruleId
  kind := .unhandledBinding
  messageId := unhandledId
  message := unhandledMessage options v
  node := p.node
  data := messageData options v
  severity := severity

theorem reportBinding_eq (forest : Forest) (options : RuleOptions) (severity : Severity) (v : Variable) :
    reportBinding forest options severity v =
      if v.definitions.isEmpty || v.identifiers.isEmpty then .ok []
      else (v.blame forest).map fun p => [bindingDiagnostic options severity v p] := by
  unfold reportBinding
  dsimp only
  rw [fill_unhandledTemplate]
  split
  · rfl
  · cases v.blame forest <;> rfl

theorem reportBinding_messages (forest : Forest) (options : RuleOptions) (severity : Severity) (v : Variable) :
    (reportBinding forest options severity v).map (List.map Diagnostic.message) =
      if v.definitions.isEmpty || v.identifiers.isEmpty then .ok []
      else (v.blame forest).map fun _ => [unhandledMessage options v] := by
  rw [reportBinding_eq]
  split
  · rfl
  · cases v.blame forest <;> rfl

/-- A template in fragments is filled by `fill` fragment by fragment: a literal stays, a placeholder whose key has a
value becomes the text of the value, and each other one stays as it stands. Data that are `texts` never make it fail,
and other data only where a value that is asked for is too long to be written. So the message of a diagnostic that
`reportBinding` makes has the name and the addition in it as they are, whatever their characters. -/
theorem messages_exact :
    (∀ (fragments : List Fragment) (data : List (String × String)),
      fill (String.ofList (fragments.flatMap Fragment.text)) (texts data) =
        .ok (String.ofList (fragments.flatMap (Fragment.filledBy data)))) ∧
    (∀ (fragments : List Fragment) (data : List (String × Document)),
      fill (String.ofList (fragments.flatMap Fragment.text)) data =
        (fragments.mapM (Fragment.filled data)).map fun parts => String.ofList parts.flatten) ∧
    (∀ (fragments : List Fragment) (data : List (String × Document)),
      Succeeds (fill (String.ofList (fragments.flatMap Fragment.text)) data) ↔
        ∀ slot, Fragment.slot slot ∈ fragments → ∀ value, memberOf? (String.ofList slot.key) data = some value →
          value.isWritable = true) ∧
    (∀ (options : RuleOptions) (v : Variable), fill unhandledTemplate (messageData options v) =
      .ok ("'" ++ v.name ++ "' error is caught but never handled" ++ addition options v ++ ".")) ∧
    ∀ (forest : Forest) (options : RuleOptions) (severity : Severity) (v : Variable),
      (reportBinding forest options severity v).map (List.map Diagnostic.message) =
        if v.definitions.isEmpty || v.identifiers.isEmpty then .ok []
        else (v.blame forest).map fun _ =>
          ["'" ++ v.name ++ "' error is caught but never handled" ++ addition options v ++ "."] :=
  ⟨fill_texts, fill_fragments, fill_succeeds_iff, fill_unhandledTemplate, reportBinding_messages⟩

/-- A value that looks like a placeholder is not filled in again, and a key without a value keeps its blanks. -/
example : fill "'\x7b\x7b a \x7d\x7d' \x7b\x7b\tb\x7d\x7d" [("a", .text "\x7b\x7ba\x7d\x7d")] =
    .ok "'\x7b\x7ba\x7d\x7d' \x7b\x7b\tb\x7d\x7d" := by cbv

end UnhandledCatch

end CatchAudit
