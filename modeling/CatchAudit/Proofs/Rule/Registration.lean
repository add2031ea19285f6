/-
Registries after any run of registrations. What a registry answers depends on the history of calls alone:
under each name it has the value of the last call, the names stand in the order of their first calls, and
every call that finds its name taken leaves one warning. Hence calls are as many as names and warnings
together.
-/
import CatchAudit.Proofs.Json.Names
import CatchAudit.Rule.Registry

namespace CatchAudit.Registry

variable {α : Type}

/-! ## Runs and histories -/

/-- One `register` of a run: the registry after it, and the records so far. -/
def step (state : Registry α × Log) (call : String × α) : Registry α × Log :=
  (state.1.register call.1 call.2, state.2 ++ state.1.registrationLog call.1)

/-- The registry after calls to an empty one, `step` by `step`, and the records that they leave. -/
def after (calls : List (String × α)) : Registry α × Log := calls.foldl step (empty, [])

/-- The value of the last call under a name. -/
def latest? (calls : List (String × α)) (name : String) : Option α :=
  ((calls.filter fun call => call.1 = name).getLast?).map Prod.snd

/-- The names of a history, each once and in the order in which they first occur. -/
structure FirstOrder (history names : List String) : Prop where
  mem_iff : ∀ name, name ∈ names ↔ name ∈ history
  ordered : names.Pairwise fun m n => history.idxOf m < history.idxOf n

/-- The warning of `register` about a name that is taken. -/
def takenRecord (name : String) : LogRecord :=
  ⟨.warning, "Rule " ++ name ++ " registered twice; keeping the latest"⟩

/-! ## One more call -/

theorem memberOf?_setMember (name key : String) (value : α) : ∀ entries : List (String × α),
    memberOf? name (setMember key value entries) = if key = name then some value else memberOf? name entries
  | [] => rfl
  | (other, old) :: rest => by
    have ih := memberOf?_setMember name key value rest
    by_cases hother : other = key
    · subst hother
      simp only [setMember, if_true, memberOf?]
      split <;> rfl
    · rw [setMember, if_neg hother, memberOf?, memberOf?]
      by_cases hname : other = name
      · -- the entry that is found is not the one that is set
        have hkey : key ≠ name := fun h => hother (hname.trans h.symm)
        rw [if_pos hname, if_pos hname, if_neg hkey]
      · rw [if_neg hname, if_neg hname, ih]

theorem latest?_concat (calls : List (String × α)) (call : String × α) (name : String) :
    latest? (calls ++ [call]) name = if call.1 = name then some call.2 else latest? calls name := by
  unfold latest?
  rw [List.filter_append]
  by_cases hname : call.1 = name
  · simp [hname]
  · simp [hname]

theorem registrationLog_eq (r : Registry α) (name : String) :
    r.registrationLog name = if name ∈ r.entries.map Prod.fst then [takenRecord name] else [] := by
  unfold registrationLog
  rcases hvalue : memberOf? name r.entries with _ | value
  · rw [if_neg (memberOf?_eq_none_iff.1 hvalue)]
  · have hmem : name ∈ r.entries.map Prod.fst := List.mem_map_of_mem (f := Prod.fst) (mem_of_memberOf? hvalue)
    rw [if_pos hmem, takenRecord]

namespace FirstOrder

variable {history names : List String} {name : String}

theorem nodup (h : FirstOrder history names) : names.Nodup :=
  h.ordered.imp fun {m n} hlt heq => by
    rw [heq] at hlt
    exact lt_irrefl _ hlt

/-- A name that occurred before changes nothing. -/
theorem again (h : FirstOrder history names) (hname : name ∈ history) : FirstOrder (history ++ [name]) names := by
  refine ⟨fun n => ?_, h.ordered.imp_of_mem fun {m n} hm hn hlt => ?_⟩
  · rw [h.mem_iff, List.mem_append, List.mem_singleton]
    exact ⟨.inl, fun hn => hn.elim id fun heq => heq ▸ hname⟩
  · have hm' := (h.mem_iff m).1 hm
    have hn' := (h.mem_iff n).1 hn
    rwa [List.idxOf_append_of_mem hm', List.idxOf_append_of_mem hn']

/-- A new name comes after all others. -/
theorem first (h : FirstOrder history names) (hname : name ∉ history) :
    FirstOrder (history ++ [name]) (names ++ [name]) := by
  have hlast : (history ++ [name]).idxOf name = history.length := by
    rw [List.idxOf_append_of_notMem hname]
    simp
  refine ⟨fun n => by rw [List.mem_append, List.mem_append, h.mem_iff], List.pairwise_append.2 ⟨?_, ?_, ?_⟩⟩
  · refine h.ordered.imp_of_mem fun {m n} hm hn hlt => ?_
    have hm' := (h.mem_iff m).1 hm
    have hn' := (h.mem_iff n).1 hn
    rwa [List.idxOf_append_of_mem hm', List.idxOf_append_of_mem hn']
  · exact List.pairwise_singleton _ _
  · intro m hm n hn
    have hm' := (h.mem_iff m).1 hm
    rw [List.mem_singleton.1 hn, hlast, List.idxOf_append_of_mem hm']
    exact List.idxOf_lt_length_of_mem hm'

end FirstOrder

/-! ## Runs -/

/-- What the registry and the records have to do with the history: its names are in `FirstOrder`, each with its
`latest?` value. -/
structure Reflects (calls : List (String × α)) (state : Registry α × Log) : Prop where
  names : FirstOrder (calls.map Prod.fst) (state.1.entries.map Prod.fst)
  latest : ∀ name, memberOf? name state.1.entries = latest? calls name
  warnings : state.2.length + state.1.entries.length = calls.length
  taken : ∀ record ∈ state.2, ∃ name ∈ calls.map Prod.fst, record = takenRecord name

theorem reflects_empty : Reflects ([] : List (String × α)) (empty, []) where
  names := ⟨fun _ => Iff.rfl, .nil⟩
  latest _ := rfl
  warnings := rfl
  taken _ h := by cases h

/-- A `step` adds its name at the end or leaves a warning. -/
theorem Reflects.concat {calls : List (String × α)} {state : Registry α × Log} (h : Reflects calls state)
    (call : String × α) : Reflects (calls ++ [call]) (step state call) := by
  have hnames := names_setMember call.1 call.2 state.1.entries
  have hlength := congrArg List.length hnames
  have hlatest : ∀ name, memberOf? name (setMember call.1 call.2 state.1.entries) = latest? (calls ++ [call]) name := by
    intro name
    rw [memberOf?_setMember, latest?_concat, h.latest]
  have hcount := h.warnings
  have htaken : ∀ record ∈ state.2, ∃ name ∈ (calls ++ [call]).map Prod.fst, record = takenRecord name := by
    intro record hrecord
    obtain ⟨name, hname, heq⟩ := h.taken record hrecord
    exact ⟨name, by simp [hname], heq⟩
  -- a name that is taken adds a warning and no name, any other one a name and no warning
  by_cases hmem : call.1 ∈ state.1.entries.map Prod.fst
  · rw [if_pos hmem] at hnames hlength
    refine ⟨?_, hlatest, ?_, ?_⟩
    · rw [step, register, hnames, List.map_append]
      exact h.names.again ((h.names.mem_iff _).1 hmem)
    · rw [step, register, registrationLog_eq, if_pos hmem]
      simp only [List.length_append, List.length_map, List.length_singleton] at hlength ⊢
      omega
    · rw [step, registrationLog_eq, if_pos hmem]
      intro record hrecord
      rcases List.mem_append.1 hrecord with hrecord | hrecord
      · exact htaken record hrecord
      · exact ⟨call.1, by simp, List.mem_singleton.1 hrecord⟩
  · rw [if_neg hmem] at hnames hlength
    refine ⟨?_, hlatest, ?_, ?_⟩
    · rw [step, register, hnames, List.map_append]
      exact h.names.first fun hold => hmem ((h.names.mem_iff _).2 hold)
    · rw [step, register, registrationLog_eq, if_neg hmem]
      simp only [List.length_append, List.length_map, List.length_singleton, List.length_nil] at hlength ⊢
      omega
    · rw [step, registrationLog_eq, if_neg hmem, List.append_nil]
      exact htaken

theorem reflects_after (calls : List (String × α)) : Reflects calls (after calls) := by
  induction calls using List.reverseRecOn with
  | nil => exact reflects_empty
  | append_singleton calls call ih =>
    unfold after at ih ⊢
    rw [List.foldl_concat]
    exact ih.concat call

/-! ## Questions to a registry -/

/-- The `ruleNamespace` before a name in an id is left out once. -/
theorem plainName_lead (name : String) : plainName (ruleNamespace ++ "/" ++ name) = name := by
  unfold plainName
  have hchars : (ruleNamespace ++ "/" ++ name).toList = (ruleNamespace ++ "/").toList ++ name.toList :=
    String.toList_append ..
  rw [hchars, if_pos (List.isPrefixOf_iff_prefix.2 (List.prefix_append _ _)), List.drop_left]
  exact String.ofList_toList

theorem plainName_of_not_lead {name : String} (h : ¬ (ruleNamespace ++ "/").toList <+: name.toList) :
    plainName name = name := by
  unfold plainName
  rw [if_neg (mt List.isPrefixOf_iff_prefix.1 h)]

theorem names_strictly_ascending {r : Registry α} (h : (r.entries.map Prod.fst).Nodup) :
    r.names.Pairwise (· < ·) := by
  have htrans : ∀ a b c : String,
      (!decide (b < a)) = true → (!decide (c < b)) = true → (!decide (c < a)) = true := by
    intro a b c hab hbc
    simp only [Bool.not_eq_true', decide_eq_false_iff_not, String.not_lt] at *
    exact String.le_trans hab hbc
  have htotal : ∀ a b : String, (!decide (b < a) || !decide (a < b)) = true := by
    intro a b
    simp only [Bool.or_eq_true, Bool.not_eq_true', decide_eq_false_iff_not, String.not_lt]
    exact String.le_total a b
  have hsorted : r.names.Pairwise fun a b => (!decide (b < a)) = true := List.pairwise_mergeSort htrans htotal _
  have hnodup : r.names.Nodup := (List.mergeSort_perm _ _).nodup_iff.2 h
  refine (hsorted.and hnodup).imp fun {a b} hab => ?_
  have hle : a ≤ b := by
    simpa only [Bool.not_eq_true', decide_eq_false_iff_not, String.not_lt] using hab.1
  -- of two different names one is below the other
  by_contra hlt
  exact hab.2 (String.le_antisymm hle (String.not_lt.1 hlt))

/-- In the registry `after` any calls, `get?` finds under a name the value of its last call, with and without what
stands before it in an id. All values are those of the last calls, in the order of the first calls of their names; the
names are listed in strictly ascending order; and there are as many warnings as calls that found their name taken. -/
theorem after_reflects_history (calls : List (String × α)) :
    (∀ name, ¬ (ruleNamespace ++ "/").toList <+: name.toList →
      (after calls).1.get? name = latest? calls name ∧
      (after calls).1.get? (ruleNamespace ++ "/" ++ name) = latest? calls name) ∧
    (∃ names, FirstOrder (calls.map Prod.fst) names ∧ names.Nodup ∧
      (after calls).1.all.map some = names.map (latest? calls) ∧
      (after calls).2.length = calls.length - names.length ∧ names.length ≤ calls.length) ∧
    ((after calls).1.names.Pairwise (· < ·) ∧ ∀ name, name ∈ (after calls).1.names ↔ name ∈ calls.map Prod.fst) ∧
    ∀ record ∈ (after calls).2, ∃ name ∈ calls.map Prod.fst, record = takenRecord name := by
  have h := reflects_after calls
  refine ⟨fun name hlead => ⟨?_, ?_⟩, ⟨_, h.names, h.names.nodup, ?_, ?_, ?_⟩,
    ⟨names_strictly_ascending h.names.nodup, fun name => ?_⟩, h.taken⟩
  · rw [get?, plainName_of_not_lead hlead, h.latest]
  · rw [get?, plainName_lead, h.latest]
  · -- every entry is what its own name finds
    rw [all, List.map_map, List.map_map]
    refine List.map_congr_left fun entry hentry => ?_
    rw [Function.comp_apply, Function.comp_apply, ← h.latest, memberOf?_of_mem h.names.nodup hentry]
  · have := h.warnings
    rw [List.length_map]
    omega
  · have := h.warnings
    rw [List.length_map]
    omega
  · rw [names, Text.sorted, List.mem_mergeSort, ← h.names.mem_iff]

/-! One name registered twice, one with what stands before it in an id, and the same one without. -/

def Sample.calls : List (String × Nat) := [("a", 1), ("catchlint/b", 2), ("a", 3), ("b", 4)]

/-- By `get?` the id finds what was registered under the plain name, not what was registered under the id. -/
theorem after_reflects_history_sample :
    ¬ (ruleNamespace ++ "/").toList <+: "b".toList ∧
    (after Sample.calls).1.get? "b" = some 4 ∧
    (after Sample.calls).1.get? "catchlint/b" = some 4 := by
  have hlead : ¬ (ruleNamespace ++ "/").toList <+: "b".toList := by decide
  obtain ⟨hplain, hid⟩ := (after_reflects_history Sample.calls).1 "b" hlead
  have hlatest : latest? Sample.calls "b" = some 4 := by decide
  exact ⟨hlead, hplain.trans hlatest, hid.trans hlatest⟩

end CatchAudit.Registry
