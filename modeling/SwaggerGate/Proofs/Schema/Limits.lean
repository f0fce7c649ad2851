import SwaggerGate.Proofs.Schema.WellFormed

/-! Limits of the check by the schema of schemas. The check of a schema comes to an end, well
formed or not, unless the schema nests too deeply, holds an integer that has no text, or has a
pattern beyond the limits of patterns. -/
namespace SwaggerGate

namespace Value

private theorem depth_le_depthList {items : List Value} {v : Value} (member : v ∈ items) : v.depth ≤ depthList items := by
  induction items with
  | nil => cases member
  | cons first rest ih =>
    rw [depthList]
    rcases List.mem_cons.1 member with rfl | later
    · exact Nat.le_max_left _ _
    · exact Nat.le_trans (ih later) (Nat.le_max_right _ _)

private theorem depth_le_depthFields {fields : List (Atom × Value)} {f : Atom × Value} (member : f ∈ fields) :
    f.2.depth ≤ depthFields fields := by
  induction fields with
  | nil => cases member
  | cons first rest ih =>
    obtain ⟨key, v⟩ := first
    rw [depthFields]
    rcases List.mem_cons.1 member with rfl | later
    · exact Nat.le_max_left _ _
    · exact Nat.le_trans (ih later) (Nat.le_max_right _ _)

theorem depth_lt_of_item {items : List Value} {v : Value} (member : v ∈ items) : v.depth < (Value.list items).depth := by
  rw [depth.eq_def (.list items)]
  exact Nat.lt_succ_of_le (depth_le_depthList member)

theorem depth_lt_of_entry {fields : List (Atom × Value)} {f : Atom × Value} (member : f ∈ fields) :
    f.2.depth < (Value.obj fields).depth := by
  rw [depth.eq_def (.obj fields)]
  exact Nat.lt_succ_of_le (depth_le_depthFields member)

theorem areShowable_iff {items : List Value} : areShowable items = true ↔ ∀ v ∈ items, v.isShowable = true := by
  induction items with
  | nil => simp [areShowable]
  | cons v rest ih => simp [areShowable, ih]

theorem fieldsShowable_iff {fields : List (Atom × Value)} :
    fieldsShowable fields = true ↔ ∀ f ∈ fields, f.1.isShowable = true ∧ f.2.isShowable = true := by
  induction fields with
  | nil => simp [fieldsShowable]
  | cons f rest ih => simp [fieldsShowable, ih]

end Value

namespace Schema

/-- Whether a text can be told to be a pattern or none, within the limits of patterns. -/
def patternFits (s : String) : Bool :=
  match patternOf (.text s) with
  | .ok _ | .error .badPattern => true
  | .error _ => false

mutual
/-- Whether all texts under `pattern` inside a value are within the limits of patterns. -/
def patternsFit : Value → Bool
  | .list items => itemsFit items
  | .obj fields =>
    (match fields.lookup (.text "pattern") with
      | some (.text s) => patternFits s
      | _ => true) && fieldsFit fields
  | _ => true
def itemsFit : List Value → Bool
  | [] => true
  | v :: rest => patternsFit v && itemsFit rest
def fieldsFit : List (Atom × Value) → Bool
  | [] => true
  | (_, v) :: rest => patternsFit v && fieldsFit rest
end

theorem itemsFit_iff {items : List Value} : itemsFit items = true ↔ ∀ v ∈ items, patternsFit v = true := by
  induction items with
  | nil => simp [itemsFit]
  | cons v rest ih => simp [itemsFit, ih]

theorem fieldsFit_iff {fields : List (Atom × Value)} : fieldsFit fields = true ↔ ∀ f ∈ fields, patternsFit f.2 = true := by
  induction fields with
  | nil => simp [fieldsFit]
  | cons f rest ih => simp [fieldsFit, ih]

/-- Whether a value can be told of, and its patterns as well. -/
structure IsPlain (v : Value) : Prop where
  showable : v.isShowable = true
  patterns : patternsFit v = true

theorem IsPlain.item {items : List Value} (plain : IsPlain (.list items)) {v : Value} (member : v ∈ items) : IsPlain v where
  showable := Value.areShowable_iff.1 plain.showable v member
  patterns := itemsFit_iff.1 plain.patterns v member

theorem IsPlain.entry {fields : List (Atom × Value)} (plain : IsPlain (.obj fields)) {f : Atom × Value}
    (member : f ∈ fields) : IsPlain f.2 where
  showable := (Value.fieldsShowable_iff.1 plain.showable f member).2
  patterns := fieldsFit_iff.1 (Bool.and_eq_true_iff.1 plain.patterns).2 f member

theorem IsPlain.pattern {fields : List (Atom × Value)} (plain : IsPlain (.obj fields)) {s : String}
    (given : fields.lookup (.text "pattern") = some (.text s)) : patternFits s = true := by
  have fits := (Bool.and_eq_true_iff.1 plain.patterns).1
  rwa [given] at fits

/-! ### Reports without a fault -/

namespace Report

theorem faultless_violation {cause : Cause} (shown : cause.shown.all Value.isShowable = true) :
    (Report.violation cause).fault = none := by
  rw [Report.violation, if_pos shown]

theorem faultless_test {passed : Bool} {cause : Cause} (shown : cause.shown.all Value.isShowable = true) :
    (Report.test passed cause).fault = none := by
  cases passed with
  | true => rfl
  | false => exact faultless_violation shown

theorem faultless_attempt {α : Type} {need : Except Fault α} {report : α → Report} {a : α} (ok : need = .ok a)
    (rest : (report a).fault = none) : (Report.attempt need report).fault = none := by
  rw [ok]
  exact rest

theorem faultless_each {α : Type} {firstOnly : Bool} {report : α → Report} {items : List α}
    (each : ∀ x ∈ items, (report x).fault = none) : (Report.each firstOnly report items).fault = none := by
  induction items with
  | nil => rfl
  | cons x rest ih =>
    rw [Report.each]
    split
    · exact each x List.mem_cons_self
    · exact ih fun y member => each y (List.mem_cons_of_mem _ member)

end Report

/-! ### Checks that end -/

/-- Whether a check by a part of the schema of schemas ends without a fault, given some levels. -/
def Ends (levels : Nat) (schema data : Value) : Prop :=
  ∀ n context, levels ≤ n → Context.InStandard context → (checkWithin n .draft4 context schema data).fault = none

/-- Whether the check of one keyword ends without a fault, given some levels. -/
def KeywordEnds (levels : Nat) (fields : List (Atom × Value)) (kind : Keyword) (argument data : Value) : Prop :=
  ∀ n context, levels ≤ n → Context.InStandard context →
    (keyword (checkWithin n) context fields kind argument data).fault = none

section Ends

variable {levels n : Nat} {context : Context} {schema data : Value} {fields : List (Atom × Value)}

theorem Ends.mono {more : Nat} (ends : Ends levels schema data) (less : levels ≤ more) : Ends more schema data :=
  fun n context enough standard => ends n context (Nat.le_trans less enough) standard

private theorem descend_ends (standard : context.InStandard) (part : IsPart schema) (ends : Ends levels schema data)
    (enough : levels ≤ n) : (descend (checkWithin n) context schema data).fault = none := by
  rw [part.descend_eq _ standard.1]
  exact ends n context enough standard

private theorem descendInto_ends (standard : context.InStandard) (part : IsPart schema) {step : Step}
    (ends : Ends levels schema data) (enough : levels ≤ n) :
    (descendInto (checkWithin n) context step schema data).fault = none := by
  obtain ⟨fields, rfl⟩ := part.object
  exact descend_ends standard part ends enough

/-- Whether the check of one entry of a schema ends, if the entry is a keyword. -/
def EntryEnds (levels : Nat) (fields : List (Atom × Value)) (data : Value) (f : Atom × Value) : Prop :=
  ∀ kind, keywordOf? .draft4 f.1 = some kind → KeywordEnds levels fields kind f.2 data

theorem EntryEnds.keyword {f : Atom × Value} {kind : Keyword} (known : keywordOf? .draft4 f.1 = some kind)
    (ends : KeywordEnds levels fields kind f.2 data) : EntryEnds levels fields data f := by
  intro other found
  cases known.symm.trans found
  exact ends

theorem EntryEnds.other {f : Atom × Value} (unknown : keywordOf? .draft4 f.1 = none) : EntryEnds levels fields data f := by
  intro kind found
  cases unknown.symm.trans found

/-- A check ends if that of each keyword does. -/
theorem Ends.ofKeywords (shown : shownRef? fields = none) (each : ∀ f ∈ fields, EntryEnds levels fields data f) :
    Ends (levels + 1) (.obj fields) data := by
  intro n context enough standard
  obtain ⟨n, rfl⟩ : ∃ m, n = m + 1 := ⟨n - 1, by omega⟩
  change (checkLevel (checkWithin n) .draft4 context (.obj fields) data).fault = none
  rw [checkLevel_object standard.1, shown]
  refine Report.faultless_each fun f member => ?_
  split
  next kind given => exact each f member kind given n context (by omega) standard
  next => rfl

private theorem Ends.ofTarget {ref : String} {target : Value}
    (leads : ∀ scope : Scope, scope.In Standard.draft4 → ∃ next : Scope, next.In Standard.draft4 ∧
      scope.lookUp ref = .ok ⟨target, next⟩)
    (object : IsObject target) (dialect : Dialect.ofSchema .draft4 target = .ok .draft4)
    (ends : Ends levels target data) : Ends (levels + 1) (Standard.ref ref) data := by
  intro n context enough standard
  obtain ⟨draft, known⟩ := standard
  obtain ⟨n, rfl⟩ : ∃ m, n = m + 1 := ⟨n - 1, by omega⟩
  have shown : shownRef? [(.text "$ref", .text ref)] = some (.text ref) := rfl
  change (checkLevel (checkWithin n) .draft4 context (.obj [(.text "$ref", .text ref)]) data).fault = none
  rw [checkLevel_object draft, shown]
  refine Report.faultless_each fun f member => ?_
  obtain rfl := List.mem_singleton.1 member
  obtain ⟨next, known, found⟩ := leads context.scope known
  change (Report.attempt ((context.scope.lookUp ref).mapError Fault.ofLookUp) _).fault = none
  rw [found]
  change (checkIn _ _ _ _ _).fault = none
  rw [checkIn_object _ draft object dialect]
  exact ends n _ (by omega) ⟨rfl, known⟩

/-- A reference to the whole ends where the whole does, one level later. -/
theorem Ends.whole (ends : Ends levels Standard.draft4 data) : Ends (levels + 1) (Standard.ref "#") data := by
  refine Ends.ofTarget (fun scope known => ?_) ⟨_, rfl⟩ rfl ends
  exact ⟨_, known.moved, lookUp_root known⟩

/-- A reference to a definition ends where that does, one level later. -/
theorem Ends.definition {ref name : String} {body : Value} (named : targetName? ref = some name)
    (found : standardDefinitions.lookup (.text name) = some body) (part : IsPart body) (ends : Ends levels body data) :
    Ends (levels + 1) (Standard.ref ref) data := by
  refine Ends.ofTarget (fun scope known => ?_) part.object part.dialect ends
  refine ⟨_, known.moved, ?_⟩
  have given : standardFields.lookup (.text "definitions") = some (.obj standardDefinitions) := rfl
  rw [lookUp_definition known given named found (by rw [part.address]; nofun), part.address]
  rfl

/-! ### Keywords -/

section Keywords

variable {argument : Value} (showable : data.isShowable = true)
include showable

theorem type_ends {name : String} {t : DataType} (known : Dialect.draft4.type? name = some t) :
    KeywordEnds levels fields .type (.text name) data := by
  intro n context _ standard
  have named : hasNamedType context data (.text name) = .ok (Dialect.draft4.hasType t data) := by
    rw [hasNamedType, standard.1]
    simp only [known]
  have tested : (typeNames (.text name) >>= anyHolds (hasNamedType context data)) =
      .ok (Dialect.draft4.hasType t data) := by
    change (do if ← hasNamedType context data (.text name) then return true else return false) = _
    rw [named]
    cases Dialect.draft4.hasType t data <;> rfl
  change (typeKeyword (checkWithin n) context (.text name) data).fault = none
  rw [typeKeyword, standard.1]
  refine Report.faultless_attempt tested (Report.faultless_test ?_)
  simp [Cause.shown, Value.isShowable, Atom.isShowable, showable]

theorem enum_ends {names : List String} : KeywordEnds levels fields .enum (.texts names) data := by
  intro n context _ _
  refine Report.faultless_attempt rfl (Report.faultless_test ?_)
  have told : (Value.texts names).isShowable = true := by
    rw [Value.texts, Value.isShowable, Value.areShowable_iff]
    intro v member
    obtain ⟨name, -, rfl⟩ := List.mem_map.1 member
    rfl
  simp [Cause.shown, told, showable]

theorem minItems_ends : KeywordEnds levels fields .minItems (.int 1) data := by
  intro n context _ _
  cases data with
  | list items => exact Report.faultless_attempt rfl (Report.faultless_test (by simp [Cause.shown, showable]))
  | _ => rfl

theorem uniqueItems_ends : KeywordEnds levels fields .uniqueItems (.bool true) data := by
  intro n context _ _
  cases data with
  | list items => exact Report.faultless_test (by simp [Cause.shown, showable])
  | _ => rfl

omit showable in
theorem keyword_minimum (check : Checker) (context : Context) :
    keyword check context fields .minimum argument data = (match Number.ofValue? data with
      | some number => minimum context fields argument data number
      | none => .ok) := rfl

theorem minimum_ends : KeywordEnds levels fields .minimum (.int 0) data := by
  intro n context _ _
  rw [keyword_minimum]
  split
  · refine Report.faultless_attempt rfl (Report.faultless_test ?_)
    have zero : (Value.int 0).isShowable = true := by decide +kernel
    simp [Cause.shown, showable, zero]
  · rfl

omit showable in
theorem keyword_format (check : Checker) (context : Context) (s : String) :
    keyword check context fields .format argument (.text s) =
      if context.checksFormats && argument == .text "regex" then
        match patternOf (.text s) with
        | .error .badPattern => .violation (.badFormat (.text s) argument)
        | .error fault => .stop fault
        | .ok _ => .ok
      else .ok := rfl

omit showable in
theorem format_ends (fits : ∀ s, data = .text s → patternFits s = true) :
    KeywordEnds levels fields .format (.text "regex") data := by
  intro n context _ _
  by_cases text : ∃ s, data = .text s
  · obtain ⟨s, rfl⟩ := text
    have fits := fits s rfl
    rw [keyword_format]
    split
    · split
      · exact Report.faultless_violation rfl
      next fault other found =>
        rw [patternFits, found] at fits
        cases fault <;> first | exact (other rfl).elim | cases fits
      · rfl
    · rfl
  · cases data with
    | atom a => cases a with
      | text s => exact absurd ⟨s, rfl⟩ text
      | _ => rfl
    | _ => rfl

end Keywords

theorem items_end {inner : List (Atom × Value)} (part : IsPart (.obj inner))
    (each : ∀ items, data = .list items → ∀ item ∈ items, Ends levels (.obj inner) item) :
    KeywordEnds levels fields .items (.obj inner) data := by
  intro n context enough standard
  cases data with
  | list items =>
    change (itemsKeyword (checkWithin n) context fields (.obj inner) items).fault = none
    rw [itemsKeyword, standard.1]
    refine Report.faultless_each fun item member => descendInto_ends standard part (each items rfl _ ?_) enough
    exact List.fst_mem_of_mem_zipIdx member
  | _ => rfl

theorem additional_end {inner : List (Atom × Value)} (noNames : argument? fields "properties" = none)
    (noPatterns : argument? fields "patternProperties" = none) (part : IsPart (.obj inner))
    (each : ∀ entries, data = .obj entries → ∀ entry ∈ entries, Ends levels (.obj inner) entry.2) :
    KeywordEnds levels fields .additionalProperties (.obj inner) data := by
  intro n context enough standard
  cases data with
  | obj entries =>
    refine Report.faultless_attempt (uncovered_all noNames noPatterns entries) ?_
    exact Report.faultless_each fun entry member => descendInto_ends standard part (each entries rfl entry member) enough
  | _ => rfl

theorem properties_end {schemas : List (Atom × Value)} (parts : ∀ entry ∈ schemas, IsPart entry.2)
    (each : ∀ entries, data = .obj entries → ∀ schema ∈ schemas, ∀ v, entryOf? entries schema.1 = some v →
      Ends levels schema.2 v) :
    KeywordEnds levels fields .properties (.obj schemas) data := by
  intro n context enough standard
  cases data with
  | obj entries =>
    refine Report.faultless_attempt rfl (Report.faultless_each fun schema member => ?_)
    dsimp only
    split
    next v found => exact descendInto_ends standard (parts schema member) (each entries rfl schema member v found) enough
    next => rw [if_neg (by rw [standard.1]; nofun)]; rfl
  | _ => rfl

theorem allOf_end {schemas : List Value} (parts : ∀ schema ∈ schemas, IsPart schema)
    (each : ∀ schema ∈ schemas, Ends levels schema data) : KeywordEnds levels fields .allOf (.list schemas) data := by
  intro n context enough standard
  refine Report.faultless_attempt rfl (Report.faultless_each fun schema member => ?_)
  exact descend_ends standard (parts schema member) (each schema member) enough

theorem anyOf_end {schemas : List Value} (showable : data.isShowable = true) (parts : ∀ schema ∈ schemas, IsPart schema)
    (each : ∀ schema ∈ schemas, Ends levels schema data) : KeywordEnds levels fields .anyOf (.list schemas) data := by
  intro n context enough standard
  have found : ∃ found, firstValid (checkWithin n) context data schemas = .ok found := by
    induction schemas with
    | nil => exact ⟨none, rfl⟩
    | cons schema rest ih =>
      have standard : Context.InStandard { context with firstOnly := false } := standard
      have ends := descend_ends standard (parts schema List.mem_cons_self) (each schema List.mem_cons_self) enough
      obtain ⟨found, later⟩ := ih (fun other member => parts other (List.mem_cons_of_mem _ member))
        fun other member => each other (List.mem_cons_of_mem _ member)
      rw [firstValid, Report.holdsThroughout, ends]
      cases (descend (checkWithin n) { context with firstOnly := false } schema data).violations.isEmpty with
      | true => exact ⟨_, rfl⟩
      | false => exact ⟨found, later⟩
  obtain ⟨found, ok⟩ := found
  exact Report.faultless_attempt ok (Report.faultless_test (by simp [Cause.shown, showable]))

/-- Dependencies on names end. -/
theorem dependencies_end {lists : List (String × List String)} :
    KeywordEnds levels fields .dependencies (.record (lists.map fun f => (f.1, .texts f.2))) data := by
  intro n context enough standard
  cases data with
  | obj entries =>
    refine Report.faultless_attempt rfl (Report.faultless_each fun dependency member => ?_)
    obtain ⟨named, inside, rfl⟩ := List.mem_map.1 member
    obtain ⟨list, -, rfl⟩ := List.mem_map.1 inside
    dsimp only
    split
    · rw [if_neg (by rw [standard.1]; nofun)]
      refine Report.faultless_attempt rfl (Report.faultless_each fun needed member => ?_)
      obtain ⟨name, -, rfl⟩ := List.mem_map.1 member
      exact Report.faultless_attempt rfl (Report.faultless_test rfl)
    · rfl
  | _ => rfl

end Ends

/-! ### Schemas of arguments -/

section Arguments

variable {levels : Nat} {v : Value}

theorem typed_ends {name : String} {t : DataType} (known : Dialect.draft4.type? name = some t)
    (showable : v.isShowable = true) : Ends 1 (Standard.typed name []) v :=
  Ends.ofKeywords rfl (List.forall_mem_singleton.2 (.keyword rfl (type_ends showable known)))

theorem factor_ends (showable : v.isShowable = true) :
    Ends 1 (Standard.typed "number" [("minimum", .int 0), ("exclusiveMinimum", .bool true)]) v := by
  refine Ends.ofKeywords rfl (List.forall_mem_cons.2 ⟨.keyword rfl (type_ends showable rfl), ?_⟩)
  refine List.forall_mem_cons.2 ⟨.keyword rfl (minimum_ends showable), ?_⟩
  exact List.forall_mem_singleton.2 (.other rfl)

theorem pattern_ends (showable : v.isShowable = true) (fits : ∀ s, v = .text s → patternFits s = true) :
    Ends 1 (Standard.typed "string" [("format", .text "regex")]) v := by
  refine Ends.ofKeywords rfl (List.forall_mem_cons.2 ⟨.keyword rfl (type_ends showable rfl), ?_⟩)
  exact List.forall_mem_singleton.2 (.keyword rfl (format_ends fits))

theorem flag_ends (showable : v.isShowable = true) :
    Ends 1 (Standard.typed "boolean" [("default", .bool false)]) v := by
  refine Ends.ofKeywords rfl (List.forall_mem_cons.2 ⟨.keyword rfl (type_ends showable rfl), ?_⟩)
  exact List.forall_mem_singleton.2 (.other rfl)

theorem members_end (showable : v.isShowable = true) :
    Ends 1 (Standard.typed "array" [("minItems", .int 1), ("uniqueItems", .bool true)]) v := by
  refine Ends.ofKeywords rfl (List.forall_mem_cons.2 ⟨.keyword rfl (type_ends showable rfl), ?_⟩)
  refine List.forall_mem_cons.2 ⟨.keyword rfl (minItems_ends showable), ?_⟩
  exact List.forall_mem_singleton.2 (.keyword rfl (uniqueItems_ends showable))

theorem positive_ends (showable : v.isShowable = true) : Ends 2 (Standard.ref "#/definitions/positiveInteger") v := by
  refine Ends.definition rfl rfl ⟨⟨_, rfl⟩, rfl, rfl⟩ (Ends.ofKeywords rfl ?_)
  refine List.forall_mem_cons.2 ⟨.keyword rfl (type_ends showable rfl), ?_⟩
  exact List.forall_mem_singleton.2 (.keyword rfl (minimum_ends showable))

theorem positiveOrZero_ends (showable : v.isShowable = true) :
    Ends 4 (Standard.ref "#/definitions/positiveIntegerDefault0") v := by
  refine Ends.definition rfl rfl ⟨⟨_, rfl⟩, rfl, rfl⟩ (Ends.ofKeywords rfl (List.forall_mem_singleton.2 ?_))
  refine .keyword rfl (allOf_end (List.forall_mem_cons.2 ⟨ref_part _, ?_⟩) (List.forall_mem_cons.2 ⟨positive_ends showable, ?_⟩))
  · exact List.forall_mem_singleton.2 ⟨⟨_, rfl⟩, rfl, rfl⟩
  · exact List.forall_mem_singleton.2 (Ends.ofKeywords rfl (List.forall_mem_singleton.2 (.other rfl)))

private theorem string_part : IsPart (Standard.typed "string" []) := ⟨⟨_, rfl⟩, rfl, rfl⟩

theorem strings_ends (plain : IsPlain v) : Ends 3 (Standard.ref "#/definitions/stringArray") v := by
  have showable := plain.showable
  refine Ends.definition rfl rfl ⟨⟨_, rfl⟩, rfl, rfl⟩ (Ends.ofKeywords rfl ?_)
  refine List.forall_mem_cons.2 ⟨.keyword rfl (type_ends showable rfl), List.forall_mem_cons.2 ⟨.keyword rfl ?_, ?_⟩⟩
  · refine items_end string_part fun items list item member => typed_ends rfl ?_
    subst list
    exact (plain.item member).showable
  · refine List.forall_mem_cons.2 ⟨.keyword rfl (minItems_ends showable), ?_⟩
    exact List.forall_mem_singleton.2 (.keyword rfl (uniqueItems_ends showable))

theorem simpleType_ends (showable : v.isShowable = true) : Ends 2 (Standard.ref "#/definitions/simpleTypes") v := by
  refine Ends.definition rfl rfl ⟨⟨_, rfl⟩, rfl, rfl⟩ (Ends.ofKeywords rfl ?_)
  exact List.forall_mem_singleton.2 (.keyword rfl (enum_ends showable))

theorem types_ends (plain : IsPlain v) : Ends 4 (.record [("anyOf", .list [Standard.ref "#/definitions/simpleTypes",
    Standard.typed "array" [("items", Standard.ref "#/definitions/simpleTypes"), ("minItems", .int 1),
      ("uniqueItems", .bool true)]])]) v := by
  have showable := plain.showable
  refine Ends.ofKeywords rfl (List.forall_mem_singleton.2 (.keyword rfl (anyOf_end showable ?_ ?_)))
  · exact List.forall_mem_cons.2 ⟨ref_part _, List.forall_mem_singleton.2 ⟨⟨_, rfl⟩, rfl, rfl⟩⟩
  · refine List.forall_mem_cons.2 ⟨(simpleType_ends showable).mono (by omega), List.forall_mem_singleton.2 ?_⟩
    refine Ends.ofKeywords rfl (List.forall_mem_cons.2 ⟨.keyword rfl (type_ends showable rfl), ?_⟩)
    refine List.forall_mem_cons.2 ⟨.keyword rfl (items_end (ref_part _) fun items list item member => ?_), ?_⟩
    · subst list
      exact simpleType_ends (plain.item member).showable
    · refine List.forall_mem_cons.2 ⟨.keyword rfl (minItems_ends showable), ?_⟩
      exact List.forall_mem_singleton.2 (.keyword rfl (uniqueItems_ends showable))

/-- A list of schemas ends three levels after its members. -/
theorem schemas_end (showable : v.isShowable = true)
    (each : ∀ items, v = .list items → ∀ item ∈ items, Ends levels Standard.draft4 item) :
    Ends (levels + 3) (Standard.ref "#/definitions/schemaArray") v := by
  refine Ends.definition rfl rfl ⟨⟨_, rfl⟩, rfl, rfl⟩ (Ends.ofKeywords rfl ?_)
  refine List.forall_mem_cons.2 ⟨.keyword rfl (type_ends showable rfl), ?_⟩
  refine List.forall_mem_cons.2 ⟨.keyword rfl (minItems_ends showable), List.forall_mem_singleton.2 (.keyword rfl ?_)⟩
  exact items_end (ref_part _) fun items list item member => (each items list item member).whole

/-- A flag or a schema ends two levels after the schema. -/
theorem flagOrSchema_ends (showable : v.isShowable = true) (whole : Ends levels Standard.draft4 v) :
    Ends (levels + 2) (.record [("anyOf", .list [Standard.typed "boolean" [], Standard.ref "#"]), ("default", .obj [])]) v := by
  refine Ends.ofKeywords rfl (List.forall_mem_cons.2 ⟨.keyword rfl (anyOf_end showable ?_ ?_), ?_⟩)
  · exact List.forall_mem_cons.2 ⟨⟨⟨_, rfl⟩, rfl, rfl⟩, List.forall_mem_singleton.2 (ref_part _)⟩
  · have flag : Ends 1 (Standard.typed "boolean" []) v := typed_ends rfl showable
    exact List.forall_mem_cons.2 ⟨flag.mono (by omega), List.forall_mem_singleton.2 whole.whole⟩
  · exact List.forall_mem_singleton.2 (.other rfl)

/-- A schema or a list of schemas ends two levels after the schema and four after the members. -/
theorem schemaOrSchemas_end (showable : v.isShowable = true) (whole : Ends (levels + 2) Standard.draft4 v)
    (each : ∀ items, v = .list items → ∀ item ∈ items, Ends levels Standard.draft4 item) :
    Ends (levels + 4) (.record [("anyOf", .list [Standard.ref "#", Standard.ref "#/definitions/schemaArray"]),
      ("default", .obj [])]) v := by
  refine Ends.ofKeywords rfl (List.forall_mem_cons.2 ⟨.keyword rfl (anyOf_end showable ?_ ?_), ?_⟩)
  · exact List.forall_mem_cons.2 ⟨ref_part _, List.forall_mem_singleton.2 (ref_part _)⟩
  · exact List.forall_mem_cons.2 ⟨whole.whole, List.forall_mem_singleton.2 (schemas_end showable each)⟩
  · exact List.forall_mem_singleton.2 (.other rfl)

/-- A map of schemas ends two levels after its members. -/
theorem schemaMap_ends (showable : v.isShowable = true)
    (each : ∀ entries, v = .obj entries → ∀ entry ∈ entries, Ends levels Standard.draft4 entry.2) :
    Ends (levels + 2) (Standard.typed "object" [("additionalProperties", Standard.ref "#"), ("default", .obj [])]) v := by
  refine Ends.ofKeywords rfl (List.forall_mem_cons.2 ⟨.keyword rfl (type_ends showable rfl), ?_⟩)
  refine List.forall_mem_cons.2 ⟨.keyword rfl (additional_end rfl rfl (ref_part _) fun entries object entry member => ?_), ?_⟩
  · exact (each entries object entry member).whole
  · exact List.forall_mem_singleton.2 (.other rfl)

/-- Dependencies end three levels after the schemas among them. -/
theorem dependencyMap_ends (plain : IsPlain v) (enough : 2 ≤ levels)
    (each : ∀ entries, v = .obj entries → ∀ entry ∈ entries, Ends levels Standard.draft4 entry.2) :
    Ends (levels + 3) (Standard.typed "object" [("additionalProperties",
      .record [("anyOf", .list [Standard.ref "#", Standard.ref "#/definitions/stringArray"])])]) v := by
  refine Ends.ofKeywords rfl (List.forall_mem_cons.2 ⟨.keyword rfl (type_ends plain.showable rfl), ?_⟩)
  refine List.forall_mem_singleton.2 (.keyword rfl (additional_end rfl rfl ⟨⟨_, rfl⟩, rfl, rfl⟩ ?_))
  intro entries object entry member
  have whole := each entries object entry member
  subst object
  have plain := plain.entry member
  refine Ends.ofKeywords rfl (List.forall_mem_singleton.2 (.keyword rfl (anyOf_end plain.showable ?_ ?_)))
  · exact List.forall_mem_cons.2 ⟨ref_part _, List.forall_mem_singleton.2 (ref_part _)⟩
  · exact List.forall_mem_cons.2 ⟨whole.whole, List.forall_mem_singleton.2 ((strings_ends plain).mono (by omega))⟩

end Arguments

/-! ### Schemas as data of the schema of schemas -/

section Whole

variable {entries : List (Atom × Value)} {depth : Nat}

/-- Whether the check of an argument ends by a part of the schema of schemas, in an object that
is so deep. -/
private def ArgumentEnds (entries : List (Atom × Value)) (depth : Nat) (f : Atom × Value) : Prop :=
  ∀ v, entryOf? entries f.1 = some v → Ends (3 * depth + 5) f.2 v

private theorem plain_of_argument (plain : IsPlain (.obj entries)) {name : Atom} {v : Value}
    (found : entryOf? entries name = some v) : IsPlain v ∧ v.depth < (Value.obj entries).depth := by
  obtain ⟨f, place, rfl⟩ := Option.map_eq_some_iff.1 found
  have member := List.mem_of_find?_eq_some place
  exact ⟨plain.entry member, Value.depth_lt_of_entry member⟩

/-- The check of each argument of a schema ends, if that of each smaller schema does. -/
private theorem arguments_end (plain : IsPlain (.obj entries)) (exact : (Value.obj entries).depth = depth)
    (below : ∀ w : Value, IsPlain w → w.depth < depth → Ends (3 * w.depth + 6) Standard.draft4 w) :
    ∀ f ∈ standardProperties, ArgumentEnds entries depth f := by
  have inside {name : Atom} {v : Value} (found : entryOf? entries name = some v) : IsPlain v ∧ v.depth < depth :=
    exact ▸ plain_of_argument plain found
  have whole {v : Value} (plain : IsPlain v) (less : v.depth < depth) : Ends (3 * depth + 3) Standard.draft4 v :=
    (below v plain less).mono (by omega)
  -- What stands inside an argument is two levels below the whole.
  have within {v w : Value} (plain : IsPlain w) (less : v.depth < depth) (part : w.depth < v.depth) :
      Ends (3 * depth) Standard.draft4 w :=
    (below w plain (by omega)).mono (by omega)
  have item {v : Value} (plain : IsPlain v) (less : v.depth < depth) (items : List Value) (list : v = .list items)
      (item : Value) (member : item ∈ items) : Ends (3 * depth) Standard.draft4 item := by
    subst list
    exact within (plain.item member) less (Value.depth_lt_of_item member)
  have entry {v : Value} (plain : IsPlain v) (less : v.depth < depth) (entries : List (Atom × Value))
      (object : v = .obj entries) (f : Atom × Value) (member : f ∈ entries) : Ends (3 * depth) Standard.draft4 f.2 := by
    subst object
    exact within (plain.entry member) less (Value.depth_lt_of_entry member)
  have typed {type : String} {t : DataType} (known : Dialect.draft4.type? type = some t) (name : String) :
      ArgumentEnds entries depth (.text name, Standard.typed type []) := fun v found =>
    (typed_ends known (inside found).1.showable).mono (by omega)
  have anything (name : String) : ArgumentEnds entries depth (.text name, .obj []) := fun v _ => by
    have ends : Ends 1 (.obj []) v := Ends.ofKeywords rfl (List.forall_mem_nil _)
    exact ends.mono (by omega)
  have limit (name : String) : ArgumentEnds entries depth (.text name, Standard.ref "#/definitions/positiveInteger") :=
    fun v found => (positive_ends (inside found).1.showable).mono (by omega)
  have limitOrZero (name : String) :
      ArgumentEnds entries depth (.text name, Standard.ref "#/definitions/positiveIntegerDefault0") :=
    fun v found => (positiveOrZero_ends (inside found).1.showable).mono (by omega)
  have schemas (name : String) : ArgumentEnds entries depth (.text name, Standard.ref "#/definitions/schemaArray") :=
    fun v found => (schemas_end (inside found).1.showable (item (inside found).1 (inside found).2)).mono (by omega)
  have flagOrSchema (name : String) : ArgumentEnds entries depth
      (.text name, .record [("anyOf", .list [Standard.typed "boolean" [], Standard.ref "#"]), ("default", .obj [])]) :=
    fun v found => flagOrSchema_ends (inside found).1.showable (whole (inside found).1 (inside found).2)
  have schemaMap (name : String) : ArgumentEnds entries depth
      (.text name, Standard.typed "object" [("additionalProperties", Standard.ref "#"), ("default", .obj [])]) :=
    fun v found => (schemaMap_ends (inside found).1.showable (entry (inside found).1 (inside found).2)).mono (by omega)
  have factor : ArgumentEnds entries depth (.text "multipleOf", _) :=
    fun v found => (factor_ends (inside found).1.showable).mono (by omega)
  have pattern : ArgumentEnds entries depth (.text "pattern", _) := fun v found => by
    refine (pattern_ends (inside found).1.showable fun s text => ?_).mono (by omega)
    rw [entryOf?_text, text] at found
    exact plain.pattern found
  have items : ArgumentEnds entries depth (.text "items", _) := fun v found =>
    (schemaOrSchemas_end (inside found).1.showable ((whole (inside found).1 (inside found).2).mono (by omega))
      fun items list i member => (item (inside found).1 (inside found).2 items list i member).mono (by omega)
    : Ends (3 * depth + 1 + 4) _ v)
  have unique : ArgumentEnds entries depth (.text "uniqueItems", _) :=
    fun v found => (flag_ends (inside found).1.showable).mono (by omega)
  have required : ArgumentEnds entries depth (.text "required", _) :=
    fun v found => (strings_ends (inside found).1).mono (by omega)
  have dependencies : ArgumentEnds entries depth (.text "dependencies", _) := fun v found =>
    (dependencyMap_ends (inside found).1 (by omega) fun entries object f member =>
      (entry (inside found).1 (inside found).2 entries object f member).mono (by omega)
    : Ends (3 * depth + 2 + 3) _ v)
  have enum : ArgumentEnds entries depth (.text "enum", _) :=
    fun v found => (members_end (inside found).1.showable).mono (by omega)
  have type : ArgumentEnds entries depth (.text "type", _) :=
    fun v found => (types_ends (inside found).1).mono (by omega)
  have negation : ArgumentEnds entries depth (.text "not", _) :=
    fun v found => (whole (inside found).1 (inside found).2).whole.mono (by omega)
  exact List.forall_iff_forall_mem.1 <| And.intro (typed rfl "id") <| And.intro (typed rfl "$schema") <|
    And.intro (typed rfl "title") <| And.intro (typed rfl "description") <| And.intro (anything "default") <|
    And.intro factor <| And.intro (typed rfl "maximum") <| And.intro (typed rfl "exclusiveMaximum") <|
    And.intro (typed rfl "minimum") <| And.intro (typed rfl "exclusiveMinimum") <| And.intro (limit "maxLength") <|
    And.intro (limitOrZero "minLength") <| And.intro pattern <| And.intro (flagOrSchema "additionalItems") <|
    And.intro items <| And.intro (limit "maxItems") <| And.intro (limitOrZero "minItems") <| And.intro unique <|
    And.intro (limit "maxProperties") <| And.intro (limitOrZero "minProperties") <| And.intro required <|
    And.intro (flagOrSchema "additionalProperties") <| And.intro (schemaMap "definitions") <|
    And.intro (schemaMap "properties") <| And.intro (schemaMap "patternProperties") <| And.intro dependencies <|
    And.intro enum <| And.intro type <| And.intro (typed rfl "format") <| And.intro (schemas "allOf") <|
    And.intro (schemas "anyOf") <| And.intro (schemas "oneOf") negation

private theorem standardProperties_parts : ∀ f ∈ standardProperties, IsPart f.2 := by
  have table : standardProperties.all (fun f => decide (IsObject f.2 ∧ (Resource.mk .draft4 f.2).id? = .ok none ∧
      Dialect.ofSchema .draft4 f.2 = .ok .draft4)) = true := by decide +kernel
  intro f member
  obtain ⟨object, address, dialect⟩ := of_decide_eq_true (List.all_eq_true.1 table f member)
  exact ⟨object, address, dialect⟩

/-- The check of a schema by the schema of schemas ends within three levels for each of its own. -/
theorem whole_ends {v : Value} (plain : IsPlain v) : Ends (3 * v.depth + 6) Standard.draft4 v := by
  induction level : v.depth using Nat.strongRecOn generalizing v with
  | ind depth ih =>
    have type : EntryEnds (3 * depth + 5) standardFields v (.text "type", .text "object") :=
      .keyword rfl (type_ends plain.showable rfl)
    have properties : EntryEnds (3 * depth + 5) standardFields v (.text "properties", .obj standardProperties) := by
      refine .keyword rfl (properties_end standardProperties_parts fun entries object schema member w found => ?_)
      subst object
      exact arguments_end plain level (fun w plain less => ih w.depth less plain rfl) schema member w found
    have dependencies : EntryEnds (3 * depth + 5) standardFields v (.text "dependencies",
        .record ([("exclusiveMaximum", ["maximum"]), ("exclusiveMinimum", ["minimum"])].map fun f => (f.1, .texts f.2))) :=
      .keyword rfl dependencies_end
    suffices each : ∀ f ∈ standardFields, EntryEnds (3 * depth + 5) standardFields v f from Ends.ofKeywords rfl each
    refine List.forall_iff_forall_mem.1 ?_
    exact And.intro (.other rfl) <| And.intro (.other rfl) <| And.intro (.other rfl) <| And.intro (.other rfl) <|
      And.intro type <| And.intro properties <| And.intro dependencies (.other rfl)

end Whole

/-- A schema within the limits is well formed or not. -/
theorem isWellFormed_total {schema : Value} (plain : IsPlain schema) (flat : 3 * schema.depth + 6 ≤ nestingLimit) :
    ∃ wellFormed, isWellFormed schema = .ok wellFormed := by
  obtain ⟨address, known⟩ : ∃ address, (Resource.mk .draft4 Standard.draft4).id? = .ok address := ⟨_, rfl⟩
  have ends : (wellFormedness schema).fault = none := by
    rw [wellFormedness, checkRoot, Scope.ofRoot, known]
    refine whole_ends plain _ _ flat ⟨rfl, ?_⟩
    simp [Scope.In, Library.addRoot, Library.add]
  unfold isWellFormed Report.holds
  rw [ends]
  cases (wellFormedness schema).violations with
  | nil => exact ⟨true, rfl⟩
  | cons _ _ => exact ⟨false, rfl⟩

end Schema
end SwaggerGate
