/-
Settings that are wrong, and how they are wrong. Reading settings, taking the options of the rule from them
and finding the severity each settle what they are about, with a result or with an error of the settings, or
they stop at something that is no error of the settings. For each of the three, the exact causes of the latter
are given: shapes that are not foreseen, numbers that are too long, patterns beyond what can be expressed.
-/
import CatchAudit.Proofs.Outcome
import CatchAudit.Proofs.Sorting.Permutation
import CatchAudit.Settings.Load

namespace CatchAudit

/-! ## Settled matters -/

/-- A result, or a failure that is an error of the `settings`. -/
def Settles {α : Type} (x : Except Failure α) : Prop := Succeeds x ∨ ∃ e, x = .error (.settings e)

theorem settles_ok {α : Type} (a : α) : Settles (.ok a) := .inl ⟨a, rfl⟩

theorem settles_error_iff {α : Type} {f : Failure} : Settles (.error f : Except Failure α) ↔ ∃ e, f = .settings e := by
  constructor
  · rintro (⟨a, h⟩ | ⟨e, h⟩)
    · cases h
    · exact ⟨e, Except.error.inj h⟩
  · rintro ⟨e, rfl⟩
    exact .inr ⟨e, rfl⟩

/-- Steps in a row are a matter that `Settles` if each one is that is reached. -/
theorem settles_bind_iff {α β : Type} {x : Except Failure α} {f : α → Except Failure β} :
    Settles (x >>= f) ↔ Settles x ∧ ∀ a, x = .ok a → Settles (f a) := by
  cases x with
  | error e =>
    refine ⟨fun h => ⟨settles_error_iff.2 (settles_error_iff.1 h), fun a h => by cases h⟩, fun h => ?_⟩
    exact settles_error_iff.2 (settles_error_iff.1 h.1)
  | ok a =>
    refine ⟨fun h => ⟨settles_ok a, fun b hb => ?_⟩, fun h => h.2 a rfl⟩
    cases hb
    exact h

theorem mapError_ok {ε ε' α : Type} {f : ε → ε'} {x : Except ε α} {a : α} (h : x.mapError f = .ok a) : x = .ok a := by
  cases x with
  | error e => cases h
  | ok b =>
    cases h
    rfl

/-- Other errors than those of the settings are not settled by passing them on. -/
theorem settles_mapError_iff {ε α : Type} {f : ε → Failure} (hf : ∀ e s, f e ≠ .settings s) {x : Except ε α} :
    Settles (x.mapError f) ↔ Succeeds x := by
  cases x with
  | error e =>
    refine ⟨fun h => ?_, fun ⟨a, h⟩ => by cases h⟩
    obtain ⟨s, hs⟩ := settles_error_iff.1 h
    exact absurd hs (hf e s)
  | ok a => exact iff_of_true (settles_ok a) (succeeds_ok a)

namespace Settings

theorem ofFile_eq {α : Type} (x : Except FileError α) : ofFile x = x.mapError .file := by cases x <;> rfl

theorem ofFault_eq {α : Type} (x : Except Fault α) : ofFault x = x.mapError .fault := by cases x <;> rfl

theorem ofFile_ok {α : Type} {x : Except FileError α} {a : α} (h : ofFile x = .ok a) : x = .ok a :=
  mapError_ok (ofFile_eq x ▸ h)

theorem ofFault_ok {α : Type} {x : Except Fault α} {a : α} (h : ofFault x = .ok a) : x = .ok a :=
  mapError_ok (ofFault_eq x ▸ h)

theorem settles_ofFile_iff {α : Type} {x : Except FileError α} : Settles (ofFile x) ↔ Succeeds x := by
  rw [ofFile_eq]
  exact settles_mapError_iff (by simp)

theorem settles_ofFault_iff {α : Type} {x : Except Fault α} : Settles (ofFault x) ↔ Succeeds x := by
  rw [ofFault_eq]
  exact settles_mapError_iff (by simp)

end Settings

/-! ## Keys with values -/

namespace Document

/-- A document that holds a key and its value. -/
def IsEntry (d : Document) : Prop :=
  ∃ key value, d.contents? = some [key, value] ∧ key.shape ≠ .list ∧ key.shape ≠ .object

/-- An object, or a document each of whose items `IsEntry`. -/
def HoldsEntries (d : Document) : Prop :=
  d.shape = .object ∨ ∃ items, d.contents? = some items ∧ ∀ item ∈ items, item.IsEntry

theorem shape_object_iff {d : Document} : d.shape = .object ↔ ∃ members, d = .object members := by
  constructor
  · intro h
    cases d with
    | object members => exact ⟨members, rfl⟩
    | moment m => cases m <;> cases h
    | _ => cases h
  · rintro ⟨members, rfl⟩
    rfl

/-- Members can be asked for by `getD` in objects only. -/
theorem getD_succeeds_iff {d fallback : Document} {name : String} :
    Succeeds (d.getD name fallback) ↔ d.shape = .object := by
  rw [shape_object_iff]
  cases d with
  | object members => exact iff_of_true ⟨_, rfl⟩ ⟨members, rfl⟩
  | _ => simp [getD, Succeeds]

theorem asKey_succeeds_iff {d : Document} : Succeeds d.asKey ↔ d.shape ≠ .list ∧ d.shape ≠ .object := by
  cases d with
  | list items => simp [asKey, shape, Succeeds]
  | object members => simp [asKey, shape, Succeeds]
  | moment m => cases m <;> simp [asKey, shape, Succeeds]
  | _ => simp [asKey, shape, Succeeds]

theorem entriesFrom_succeeds_iff {items : List Document} {entries : List (Document × Document)} {index : Nat} :
    Succeeds (entriesFrom entries index items) ↔ ∀ item ∈ items, item.IsEntry := by
  induction items generalizing entries index with
  | nil => simp [entriesFrom, Succeeds]
  | cons d rest ih =>
    rw [List.forall_mem_cons]
    unfold entriesFrom
    split
    · next hnone => simp [Succeeds, IsEntry, hnone]
    · next key value hpair =>
      have hentry : d.IsEntry ↔ Succeeds key.asKey := by
        rw [asKey_succeeds_iff]
        simp [IsEntry, hpair]
      rw [hentry]
      constructor
      · rintro ⟨out, h⟩
        obtain ⟨key', hkey, h⟩ := bind_ok h
        exact ⟨⟨key', hkey⟩, ih.1 ⟨out, h⟩⟩
      · rintro ⟨hkey, hrest⟩
        exact hkey.bind fun _ _ => ih.2 hrest
    · next items hother hitems =>
      refine iff_of_false ?_ ?_
      · rintro ⟨_, h⟩
        cases h
      · rintro ⟨⟨key, value, hpair, -⟩, -⟩
        exact hother key value (Option.some.inj (hitems.symm.trans hpair))

theorem entries_succeeds_iff {d : Document} : Succeeds d.entries ↔ d.HoldsEntries := by
  by_cases hobject : d.shape = .object
  · obtain ⟨members, rfl⟩ := shape_object_iff.1 hobject
    exact iff_of_true ⟨_, rfl⟩ (.inl rfl)
  · have hentries : d.entries = d.iterate >>= entriesFrom [] 0 := by
      cases d with
      | object members => exact absurd rfl hobject
      | _ => rfl
    rw [hentries]
    unfold HoldsEntries iterate
    cases hcontents : d.contents? with
    | none =>
      refine iff_of_false (fun ⟨_, h⟩ => by cases h) ?_
      simp [hobject]
    | some items =>
      have hfrom : Succeeds (Except.ok items >>= entriesFrom [] 0) ↔ ∀ item ∈ items, item.IsEntry :=
        entriesFrom_succeeds_iff
      rw [hfrom]
      simp [hobject]

theorem equal_text (d : Document) (s : String) : d.equal (.text s) = d.isText s := by
  cases d <;> simp [equal, isText, number?]

theorem eq_text_of_shape {d : Document} (h : d.shape = .text) : ∃ s, d = .text s := by
  cases d with
  | text s => exact ⟨s, rfl⟩
  | moment m => cases m <;> cases h
  | _ => cases h

theorem textsFrom_succeeds_iff : ∀ (index : Nat) {keys : List Document},
    Succeeds (textsFrom index keys) ↔ ∀ key ∈ keys, key.shape = .text
  | index, [] => by simp [textsFrom, Succeeds]
  | index, d :: rest => by
    rw [List.forall_mem_cons, ← textsFrom_succeeds_iff (index + 1)]
    by_cases hd : d.shape = .text
    · obtain ⟨s, rfl⟩ := eq_text_of_shape hd
      constructor
      · rintro ⟨out, h⟩
        obtain ⟨others, hothers, -⟩ := bind_ok h
        exact ⟨rfl, ⟨others, hothers⟩⟩
      · rintro ⟨-, hrest⟩
        exact hrest.bind fun _ _ => succeeds_ok _
    · refine iff_of_false ?_ fun h => hd h.1
      rintro ⟨out, h⟩
      cases d with
      | text s => exact hd rfl
      | _ => cases h

theorem less_of_texts {x y : Document} (hx : x.shape = .text) (hy : y.shape = .text) : Succeeds (x.less y) := by
  obtain ⟨s, rfl⟩ := eq_text_of_shape hx
  obtain ⟨t, rfl⟩ := eq_text_of_shape hy
  exact ⟨_, by rw [less]⟩

end Document

/-! ## Options -/

namespace RuleOptions

/-- `unknownOptions` is an error of the settings exactly if all keys are texts: keys that are texts can be sorted and
named, and a key that is none is still there after sorting. -/
theorem unknownOptions_settings_iff {keys : List Document} :
    (∃ e, unknownOptions keys = .settings e) ↔ ∀ key ∈ keys, key.shape = .text := by
  have hsorted := Sorting.sort_answers Document.less keys
  unfold unknownOptions
  cases hsort : Sorting.sort Document.less keys with
  | error f =>
    rw [hsort] at hsorted
    -- texts can be compared, so that one of the two keys is none
    obtain ⟨x, hx, y, hy, hless⟩ := hsorted
    refine iff_of_false (by simp [Except.bind]) fun h => ?_
    obtain ⟨b, hb⟩ := Document.less_of_texts (h x hx) (h y hy)
    rw [hless] at hb
    cases hb
  | ok sorted =>
    rw [hsort] at hsorted
    -- the keys are named in sorted order, but they are the same keys
    have hperm : sorted.Perm keys := hsorted
    have hkeys : (∀ key ∈ keys, key.shape = .text) ↔ Succeeds (Document.textsFrom 0 sorted) := by
      rw [Document.textsFrom_succeeds_iff]
      simp only [hperm.mem_iff]
    rw [hkeys]
    cases htexts : Document.textsFrom 0 sorted with
    | error f => simp [Except.bind, htexts, Succeeds]
    | ok names => simp [Except.bind, htexts, Succeeds]

/-- The keys that are not known. -/
def unknownKeys (entries : List (Document × Document)) : List Document :=
  (entries.map (·.1)).filter fun key => !optionNames.any key.isText

/-- The value under the one key that is known. -/
def patternOf? (entries : List (Document × Document)) : Option Document :=
  (entries.find? fun e => e.1.isText "ignorePattern").map (·.2)

/-- The options that `ofDocument` makes of the value of the pattern. -/
def ofValue : Option Document → Except Failure RuleOptions
  | none | some .null => .ok default
  | some (.text source) => ofPattern source
  | some other => .error (.settings (.patternNotText other.shape))

theorem any_optionNames (key : Document) : optionNames.any key.isText = key.isText "ignorePattern" := by
  simp [optionNames]

theorem ofEntries_eq (entries : List (Document × Document)) :
    ofEntries entries =
      if unknownKeys entries = [] then ofValue (patternOf? entries)
      else .error (unknownOptions (unknownKeys entries)) := by
  have hunknown : (entries.map (·.1)).filter (fun key => !optionNames.any key.isText) = unknownKeys entries := rfl
  unfold ofEntries
  rw [hunknown]
  split
  · next hnone =>
    rw [if_pos hnone]
    match entries with
    | [] => rfl
    | (key, value) :: rest =>
      -- the first key is known, so that its value is the one that is looked up
      have hkey : key.isText "ignorePattern" = true := by
        rw [← any_optionNames]
        have hall := List.filter_eq_nil_iff.1 hnone key (by simp)
        simpa using hall
      have hfirst : patternOf? ((key, value) :: rest) = some value := by simp [patternOf?, hkey]
      rw [hfirst]
      cases value <;> rfl
  · next hsome => rw [if_neg hsome]

theorem unknownKeys_setEntry (value : Document) (entries : List (Document × Document)) :
    unknownKeys (Document.setEntry (.text "ignorePattern") value entries) = unknownKeys entries := by
  induction entries with
  | nil => simp [Document.setEntry, unknownKeys, optionNames, Document.isText]
  | cons e rest ih =>
    unfold unknownKeys at ih ⊢
    unfold Document.setEntry
    split
    · simp
    · simp [List.filter_cons, ih]

theorem patternOf?_setEntry (value : Document) (entries : List (Document × Document)) :
    patternOf? (Document.setEntry (.text "ignorePattern") value entries) = some value := by
  induction entries with
  | nil => simp [Document.setEntry, patternOf?, Document.isText]
  | cons e rest ih =>
    unfold patternOf? at ih ⊢
    unfold Document.setEntry
    split
    · next hequal =>
      rw [Document.equal_text] at hequal
      simp [hequal]
    · next hequal =>
      rw [Document.equal_text] at hequal
      simp [hequal, ih]

theorem settles_ofPattern_iff {source : String} :
    Settles (ofPattern source) ↔ ¬ ∃ e, SearchPattern.parse source = .error e ∧ e.isLimit = true := by
  unfold ofPattern
  cases SearchPattern.parse source with
  | ok p => exact iff_of_true (settles_ok _) (by simp)
  | error e =>
    dsimp only
    split
    · next hlimit =>
      refine iff_of_false ?_ (not_not.2 ⟨e, rfl, hlimit⟩)
      rw [settles_error_iff]
      simp
    · next hlimit =>
      refine iff_of_true (settles_error_iff.2 ⟨_, rfl⟩) ?_
      rintro ⟨e', he, hlimit'⟩
      cases he
      exact hlimit hlimit'

/-- A value of the pattern settles the options by `ofValue` unless it is a pattern beyond what can be expressed. -/
theorem settles_ofValue_iff {value : Option Document} :
    Settles (ofValue value) ↔
      ¬ ∃ source e, value = some (.text source) ∧ SearchPattern.parse source = .error e ∧ e.isLimit = true := by
  by_cases htext : ∃ source, value = some (.text source)
  · obtain ⟨source, rfl⟩ := htext
    rw [ofValue, settles_ofPattern_iff]
    simp
  · refine iff_of_true ?_ fun ⟨source, _, hvalue, _⟩ => htext ⟨source, hvalue⟩
    cases value with
    | none => exact settles_ok default
    | some d =>
      cases d with
      | text source => exact absurd ⟨source, rfl⟩ htext
      | null => exact settles_ok default
      | _ => exact settles_error_iff.2 ⟨_, rfl⟩

/-- Keys with values settle the options by `ofEntries` unless a key is no text, or the one key that is known is the
only one and its value a pattern beyond what can be expressed. -/
theorem settles_ofEntries_iff {entries : List (Document × Document)} :
    Settles (ofEntries entries) ↔
      (∀ key ∈ unknownKeys entries, key.shape = .text) ∧
      ¬ ∃ source e, unknownKeys entries = [] ∧ patternOf? entries = some (.text source) ∧
        SearchPattern.parse source = .error e ∧ e.isLimit = true := by
  rw [ofEntries_eq]
  split
  · next hnone =>
    rw [settles_ofValue_iff]
    simp [hnone]
  · next hsome =>
    rw [settles_error_iff, unknownOptions_settings_iff]
    simp [hsome]

end RuleOptions

namespace Settings

/-- The value under `options`, which holds the options of the rule. -/
def optionsValue (settings : Document) : Document := (settings.member? "options").getD (.object [])

theorem unknownKeys_withPattern (options : List (Document × Document)) (name : String) :
    RuleOptions.unknownKeys (withPattern settings options name) = RuleOptions.unknownKeys options := by
  unfold withPattern
  split
  · exact RuleOptions.unknownKeys_setEntry _ _
  · rfl

theorem patternOf?_withPattern (options : List (Document × Document)) (name : String) :
    RuleOptions.patternOf? (withPattern settings options name) =
      (settings.member? name).or (RuleOptions.patternOf? options) := by
  unfold withPattern
  split
  · next d hd =>
    rw [RuleOptions.patternOf?_setEntry, hd]
    rfl
  · next hnone =>
    rw [hnone]
    rfl

/-! ## Severities -/

/-- By `Severity.ofDocument` a number, a truth value or a text is a severity, or it is none of the known ones. -/
theorem ofDocument_answers {d : Document} (h : d.shape = .int ∨ d.shape = .bool ∨ d.shape = .text) :
    Answers (fun f => f.family = .key ∨ f.family = .value) (fun _ => d.isWritable = true) (Severity.ofDocument d) := by
  cases d with
  | int i =>
    rw [Severity.ofDocument]
    cases hfind : Severity.all.find? fun s => (s.value : Int) == i with
    | some s =>
      have hs := List.find?_some hfind
      rw [beq_iff_eq] at hs
      subst hs
      show (Document.int s.value).isWritable = true
      cases s <;> decide +kernel
    | none => exact .inr rfl
  | bool b => exact rfl
  | text s =>
    unfold Severity.ofDocument
    dsimp only
    repeat' split
    · exact rfl
    · exact rfl
    · exact rfl
    · exact .inl rfl
  | moment m => cases m <;> simp [Document.shape] at h
  | _ => simp [Document.shape] at h

theorem severityOf_of_error {d : Document} {f : Fault} (hd : Severity.ofDocument d = .error f)
    (hfamily : f.family = .key ∨ f.family = .value) :
    severityOf d = .error (if d.isWritable then .settings (.badSeverity d) else .fault .longNumber) := by
  unfold severityOf
  rw [hd]
  rcases hfamily with h | h
  · dsimp only
    rw [h]
    cases d.isWritable <;> rfl
  · dsimp only
    rw [h]
    cases d.isWritable <;> rfl

/-- `severityOf` settles exactly what is a number that can be written, a truth value or a text. -/
theorem settles_severityOf_iff {d : Document} :
    Settles (severityOf d) ↔ (d.shape = .int ∨ d.shape = .bool ∨ d.shape = .text) ∧ d.isWritable = true := by
  by_cases hshape : d.shape = .int ∨ d.shape = .bool ∨ d.shape = .text
  · have hanswers := ofDocument_answers hshape
    rw [and_iff_right hshape]
    cases hd : Severity.ofDocument d with
    | ok s =>
      rw [hd] at hanswers
      have hs : severityOf d = .ok s := by
        unfold severityOf
        rw [hd]
      rw [hs]
      exact iff_of_true (settles_ok s) hanswers
    | error f =>
      rw [hd] at hanswers
      rw [severityOf_of_error hd hanswers]
      cases d.isWritable <;> simp [settles_error_iff]
  · -- no other shape has the operation that names are read by
    have hd : Severity.ofDocument d = .error (.noOperation d.shape "lower") := by
      cases d with
      | int i => exact absurd (.inl rfl) hshape
      | bool b => exact absurd (.inr (.inl rfl)) hshape
      | text s => exact absurd (.inr (.inr rfl)) hshape
      | _ => rfl
    refine iff_of_false ?_ fun h => hshape h.1
    unfold severityOf
    rw [hd]
    simp [Fault.family, settles_error_iff]

/-! ## Files -/

section Files

variable {σ : Type} [FileSystem σ] {t : σ} {p : Path}

/-- A settings file that `load` neither reads nor rejects. To be unreadable is an error of the settings, but not if it
is for a null character in the path. -/
inductive Escapes [TomlReader] (t : σ) (p : Path) : Prop
  | nullInPath {e : FileError} (hread : FileSystem.read t p = .error e) (hnull : e.reason = .nullInPath)
  | notUtf8 {bytes : List UInt8} {f : Text.Utf8Fault} (hread : FileSystem.read t p = .ok bytes)
      (hutf8 : Text.decodeUtf8 bytes = .error f)
  /-- The reader of TOML meets a fault that it does not report as its own, such as a number with too many digits. -/
  | tomlFault {bytes : List UInt8} {cs : List Char} {f : Fault} (hread : FileSystem.read t p = .ok bytes)
      (hutf8 : Text.decodeUtf8 bytes = .ok cs) (hsuffix : p.suffix = ".toml")
      (htoml : TomlReader.read cs = .error (.fault f))
  | longJsonNumber {bytes : List UInt8} {cs : List Char} {f : Json.JsonFault} {digits : Nat}
      (hread : FileSystem.read t p = .ok bytes) (hutf8 : Text.decodeUtf8 bytes = .ok cs) (hsuffix : p.suffix ≠ ".toml")
      (hjson : Json.parse (Text.plainLineEnds cs) = .error f) (hlong : f.reason = .longNumber digits)
  /-- The project file has something else than a table in the place of the tables of all tools. -/
  | toolShape {bytes : List UInt8} {cs : List Char} {members : List (String × Document)} {tool : Document}
      (hread : FileSystem.read t p = .ok bytes) (hutf8 : Text.decodeUtf8 bytes = .ok cs)
      (hsuffix : p.suffix = ".toml") (hname : p.name = projectFile) (htoml : TomlReader.read cs = .ok members)
      (htool : memberOf? "tool" members = some tool) (hshape : tool.shape ≠ .object)

theorem readText_error [TomlReader] {f : Failure} (h : readText t p = .error f) (hf : ∀ e, f ≠ .settings e) :
    Escapes t p := by
  unfold readText at h
  split at h
  · next e hread =>
    split at h
    · next hreason => exact .nullInPath hread hreason
    · cases h
      exact absurd rfl (hf _)
  · next bytes hread =>
    split at h
    · next fault hutf8 => exact .notUtf8 hread hutf8
    · cases h

theorem readText_ok {cs : List Char} (h : readText t p = .ok cs) :
    ∃ bytes, FileSystem.read t p = .ok bytes ∧ Text.decodeUtf8 bytes = .ok cs := by
  unfold readText at h
  split at h
  · cases h
  · next bytes hbytes =>
    split at h
    · cases h
    · next hcs =>
      cases h
      exact ⟨bytes, hbytes, hcs⟩

/-- By `projectTable` the table of a project file is found unless the tables of all tools have another shape. -/
theorem projectTable_succeeds_iff {members : List (String × Document)} :
    Succeeds (projectTable (.object members)) ↔
      ∀ tool, memberOf? "tool" members = some tool → tool.shape = .object := by
  have htable : projectTable (.object members) =
      ((memberOf? "tool" members).getD (.object [])).getD "catchlint" (.object []) := rfl
  rw [htable, Document.getD_succeeds_iff]
  cases memberOf? "tool" members with
  | none => simp [Document.shape]
  | some tool => simp

variable [TomlReader]

theorem readDocument_error {f : Failure} (h : readDocument t p = .error f) (hf : ∀ e, f ≠ .settings e) :
    Escapes t p := by
  unfold readDocument at h
  cases hcs : readText t p with
  | error f' =>
    rw [hcs] at h
    cases h
    exact readText_error hcs hf
  | ok cs =>
    obtain ⟨bytes, hread, hutf8⟩ := readText_ok hcs
    rw [hcs] at h
    change (if _ then _ else _) = _ at h
    split at h
    · next hsuffix =>
      cases htoml : TomlReader.read cs with
      | error e =>
        cases e with
        | fault f => exact .tomlFault hread hutf8 hsuffix htoml
        | malformed words =>
          rw [htoml] at h
          cases h
          exact absurd rfl (hf _)
      | ok members =>
        rw [htoml] at h
        dsimp only at h
        split at h
        -- a table of all tools is looked for in the project file only, and found unless its shape is another one
        · next hname =>
          by_contra hescapes
          have htable : Succeeds (projectTable (.object members)) := projectTable_succeeds_iff.2 fun tool htool => by
            by_contra hshape
            exact hescapes (.toolShape hread hutf8 hsuffix hname htoml htool hshape)
          obtain ⟨table, htable⟩ := htable
          rw [htable] at h
          cases h
        · cases h
    · next hsuffix =>
      cases hjson : Json.parse (Text.plainLineEnds cs) with
      | error fault =>
        rw [hjson] at h
        dsimp only at h
        split at h
        · next digits hlong => exact .longJsonNumber hread hutf8 hsuffix hjson hlong
        · cases h
          exact absurd rfl (hf _)
      | ok d =>
        rw [hjson] at h
        cases h

theorem Escapes.load_error (h : Escapes t p) : ∃ f, load t p = .error f ∧ ∀ e, f ≠ .settings e := by
  cases h with
  | @nullInPath e hread hnull =>
    exact ⟨.file e, by simp [load, readDocument, readText, hread, hnull, bind, Except.bind], by simp⟩
  | @notUtf8 bytes f hread hutf8 =>
    exact ⟨.notUtf8 f, by simp [load, readDocument, readText, hread, hutf8, bind, Except.bind], by simp⟩
  | @tomlFault bytes cs f hread hutf8 hsuffix htoml =>
    exact ⟨.fault f, by simp [load, readDocument, readText, hread, hutf8, hsuffix, htoml, bind, Except.bind], by simp⟩
  | @longJsonNumber bytes cs f digits hread hutf8 hsuffix hjson hlong =>
    exact ⟨.fault (.longInteger digits),
      by simp [load, readDocument, readText, hread, hutf8, hsuffix, hjson, hlong, bind, Except.bind], by simp⟩
  | @toolShape bytes cs members tool hread hutf8 hsuffix hname htoml htool hshape =>
    cases htable : projectTable (.object members) with
    | ok table => exact absurd (projectTable_succeeds_iff.1 ⟨table, htable⟩ tool htool) hshape
    | error f =>
      exact ⟨.fault f, by simp [load, readDocument, readText, hread, hutf8, hsuffix, hname, htoml, htable, ofFault,
        bind, Except.bind], by simp⟩

theorem settles_load_iff : Settles (load t p) ↔ ¬ Escapes t p := by
  constructor
  · intro h hescapes
    obtain ⟨f, hload, hf⟩ := hescapes.load_error
    rw [hload, settles_error_iff] at h
    obtain ⟨e, he⟩ := h
    exact hf e he
  · intro h
    refine settles_bind_iff.2 ⟨?_, fun d _ => ?_⟩
    · cases hdocument : readDocument t p with
      | ok d => exact settles_ok d
      | error f =>
        by_contra hf
        rw [settles_error_iff, not_exists] at hf
        exact h (readDocument_error hdocument hf)
    · cases d with
      | object members => exact settles_ok _
      | _ => exact settles_error_iff.2 ⟨_, rfl⟩

end Files

end Settings

end CatchAudit
