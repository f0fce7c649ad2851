import SwaggerGate.Proofs.Percent
import SwaggerGate.Proofs.Pointer
import SwaggerGate.Proofs.Schema.Inline
import SwaggerGate.Schema.Standard

/-! Where references of compiled schemas lead. A check follows a pointer into the root schema,
whose percent escapes it undoes first; a cut names the very definition it was made for, unless
that name holds such an escape. -/
namespace SwaggerGate

namespace Pointer

/-- Whether a text starts with two hexadecimal digits. -/
private def startsHex : List Char → Bool
  | a :: b :: _ => (Text.hexDigit? a).isSome && (Text.hexDigit? b).isSome
  | _ => false

theorem hasEscape_cons (c : Char) (rest : List Char) :
    Url.hasEscape (c :: rest) = ((c == '%' && startsHex rest) || Url.hasEscape rest) := by
  by_cases percent : c = '%'
  · subst percent
    match rest with
    | [] => rfl
    | [a] => rfl
    | a :: b :: more => rfl
  · rw [beq_false_of_ne percent, Bool.false_and, Bool.false_or]
    exact Url.hasEscape.eq_2 c rest fun _ _ _ same => absurd same percent

private theorem escapeChars_cons (c : Char) (rest : List Char) :
    escapeChars (c :: rest) = escapeChar c ++ escapeChars rest := rfl

private theorem startsHex_escapeChars (cs : List Char) : startsHex (escapeChars cs) = startsHex cs := by
  have tilde : Text.hexDigit? '~' = none := by decide
  have slash : Text.hexDigit? '/' = none := by decide
  have first (c : Char) : ∃ d more, escapeChar c = d :: more ∧ (Text.hexDigit? d).isSome = (Text.hexDigit? c).isSome ∧
      ((Text.hexDigit? c).isSome = true → more = []) := by
    unfold escapeChar
    split
    next same => exact ⟨_, _, rfl, by simp [same], by simp [same, tilde]⟩
    split
    next same => exact ⟨_, _, rfl, by simp [same, tilde, slash], by simp [same, slash]⟩
    next => exact ⟨_, _, rfl, rfl, fun _ => rfl⟩
  match cs with
  | [] => rfl
  | [a] =>
    obtain ⟨d, more, shape, same, alone⟩ := first a
    rw [escapeChars_cons, shape]
    cases hex : (Text.hexDigit? a).isSome with
    | true => rw [alone hex]; rfl
    | false => cases more <;> simp [startsHex, escapeChars, same, hex]
  | a :: b :: rest =>
    obtain ⟨d, more, shape, same, alone⟩ := first a
    obtain ⟨e, after, shape', same', -⟩ := first b
    rw [escapeChars_cons, escapeChars_cons, shape, shape']
    cases hex : (Text.hexDigit? a).isSome with
    | true => rw [alone hex]; simp [startsHex, same, same']
    | false => cases more <;> simp [startsHex, same, hex]

/-- Escaping a token neither makes nor breaks a percent escape. -/
theorem hasEscape_escapeChars (cs : List Char) : Url.hasEscape (escapeChars cs) = Url.hasEscape cs := by
  induction cs with
  | nil => rfl
  | cons c rest ih =>
    rw [escapeChars_cons, hasEscape_cons c rest, ← ih, ← startsHex_escapeChars rest]
    unfold escapeChar
    split
    next same => simp [hasEscape_cons, same]
    split
    next same => simp [hasEscape_cons, same]
    next => rw [List.singleton_append, hasEscape_cons]

end Pointer

namespace Schema

/-- The definition that a check takes a reference to name: the token that a local pointer has
after `definitions`, once its percent escapes and then its own escapes are undone. -/
def targetName? (ref : String) : Option String :=
  match ref.toList with
  | '#' :: '/' :: pointer => match Text.splitOn '/' (Url.percentDecode pointer) with
    | [place, token] =>
      if Pointer.unescape (String.ofList place) = "definitions" then some (Pointer.unescape (String.ofList token)) else none
    | _ => none
  | _ => none

private theorem toList_definitionRef (name : String) :
    (definitionRef name).toList = '#' :: '/' :: ("definitions".toList ++ '/' :: Pointer.escapeChars name.toList) := by
  have whole : (definitionRef name).toList = "#/definitions/".toList ++ (Pointer.escape name).toList :=
    String.toList_append
  rw [whole, Pointer.toList_escape]
  rfl

/-- The reference to a definition is read as its name. -/
theorem refName_definitionRef (name : String) : refName "definitions" (definitionRef name) = .ok name :=
  refName_escape "definitions" name

theorem definitionRef_injective {name other : String} (same : definitionRef name = definitionRef other) :
    name = other := by
  have read := refName_definitionRef name
  rw [same, refName_definitionRef] at read
  exact (Except.ok.inj read).symm

private theorem hasEscape_append {piece rest : List Char} (plain : '%' ∉ piece) :
    Url.hasEscape (piece ++ rest) = Url.hasEscape rest := by
  induction piece with
  | nil => rfl
  | cons c piece ih =>
    rw [List.mem_cons, not_or] at plain
    rw [List.cons_append, Pointer.hasEscape_cons, beq_false_of_ne (Ne.symm plain.1), ih plain.2]
    rfl

/-- A cut is read as the definition that it was made for. -/
theorem targetName?_definitionRef {name : String} (plain : Url.hasEscape name.toList = false) :
    targetName? (definitionRef name) = some name := by
  have still : Url.percentDecode ("definitions".toList ++ '/' :: Pointer.escapeChars name.toList) =
      "definitions".toList ++ '/' :: Pointer.escapeChars name.toList := by
    apply Url.percentDecode_of_no_escape
    rw [hasEscape_append (by decide), Pointer.hasEscape_cons, Pointer.hasEscape_escapeChars, plain]
    rfl
  have tokens : Text.splitOn '/' ("definitions".toList ++ '/' :: Pointer.escapeChars name.toList) =
      ["definitions".toList, Pointer.escapeChars name.toList] := by
    rw [Text.splitOn_append, Text.splitOn_of_not_mem (by decide),
      Text.splitOn_of_not_mem (Pointer.slash_not_mem_escapeChars _), List.singleton_append]
  have place : Pointer.unescape (String.ofList "definitions".toList) = "definitions" := by decide
  have token : Pointer.unescape (String.ofList (Pointer.escapeChars name.toList)) = name := Pointer.unescape_escape name
  rw [targetName?, toList_definitionRef]
  simp only [still, tokens, place, token, if_true]

/-- The scope of a root schema that gives itself no address. -/
def rootScope (root : Value) : Scope := { library := Standard.library.addRoot "" ⟨.draft4, root⟩ }

theorem id?_of_absent {fields : List (Atom × Value)} (absent : fields.lookup (.text "id") = none) :
    (Resource.mk .draft4 (.obj fields)).id? = .ok none := by
  have key : Resource.idKey .draft4 = "id" := rfl
  simp only [Resource.id?, Resource.idOfFields, key, absent]
  split <;> rfl

theorem ofRoot_eq {root : Value} (plain : (Resource.mk .draft4 root).id? = .ok none) :
    Scope.ofRoot Standard.library ⟨.draft4, root⟩ = .ok (rootScope root) := by
  rw [Scope.ofRoot, plain]
  rfl

/-- Whether the references of a scope are read in a root schema. -/
def Scope.In (root : Value) (scope : Scope) : Prop :=
  scope.library.resources.lookup scope.base = some ⟨.draft4, root⟩

theorem rootScope_in (root : Value) : (rootScope root).In root := by
  simp [Scope.In, rootScope, Library.addRoot, Library.add]

theorem Scope.In.moved {root : Value} {scope : Scope} (h : scope.In root) :
    (scope.moved scope.base scope.library).In root := h

/-- The reference to the whole leads to the root. -/
theorem lookUp_root {scope : Scope} {root : Value} (known : scope.In root) :
    scope.lookUp "#" = .ok ⟨root, scope.moved scope.base scope.library⟩ := by
  have shape : "#".toList = ['#'] := rfl
  have found : scope.library.find? scope.base = .ok (some (⟨.draft4, root⟩, scope.library)) := by
    rw [Library.find?, known]
  rw [Scope.lookUp, shape]
  simp only [pure_bind, found]
  rfl

private theorem lookUp_pointer {scope : Scope} {root : Value} (known : scope.In root) {ref : String}
    {pointer : List Char} (shape : ref.toList = '#' :: '/' :: pointer) :
    scope.lookUp ref = Scope.follow .draft4 [] (scope.moved scope.base scope.library) root
      ((Text.splitOn '/' (Url.percentDecode pointer)).map String.ofList) := by
  have found : scope.library.find? scope.base = .ok (some (⟨.draft4, root⟩, scope.library)) := by
    rw [Library.find?, known]
  rw [Scope.lookUp, shape]
  simp only [pure_bind, found]
  rfl

/-- A reference to a definition of the root leads to it, at the same address. -/
theorem lookUp_definition {scope : Scope} {fields bodies : List (Atom × Value)} (known : scope.In (.obj fields))
    {ref name : String} {body : Value} (given : fields.lookup (.text "definitions") = some (.obj bodies))
    (named : targetName? ref = some name) (found : bodies.lookup (.text name) = some body)
    (plain : ∀ address, (Resource.mk .draft4 body).id? ≠ .ok (some address)) :
    scope.lookUp ref =
      (Resource.mk .draft4 body).id?.map fun _ => ⟨body, scope.moved scope.base scope.library⟩ := by
  rw [targetName?] at named
  split at named
  next pointer shape =>
    split at named
    next place token tokens =>
      split at named
      next isDefinitions =>
        obtain rfl := Option.some.inj named
        have first : Scope.step (.obj fields) (String.ofList place) = .ok (.obj bodies, some "definitions") := by
          simp only [Scope.step, isDefinitions, given]
        have second : Scope.step (.obj bodies) (String.ofList token) =
            .ok (body, some (Pointer.unescape (String.ofList token))) := by
          simp only [Scope.step, found]
        have between : Scope.leadToSchema .draft4 (.obj bodies) [some "definitions"] = false := rfl
        have whole : Scope.leadToSchema .draft4 body
            [some "definitions", some (Pointer.unescape (String.ofList token))] = true := by
          simp [Scope.leadToSchema, Scope.stepKeywords, Resource.schemaKeywords, Resource.listKeywords,
            Resource.mapKeywords, Dialect.rank]
        rw [lookUp_pointer known shape, tokens]
        simp only [List.map_cons, List.map_nil, Scope.follow, first, List.nil_append, List.cons_append]
        simp only [bind, Except.bind, between, second, Bool.false_eq_true, if_false, whole, if_true]
        cases id : (Resource.mk .draft4 body).id? with
        | error fault => rfl
        | ok address =>
          cases address with
          | none => rfl
          | some address => exact absurd id (plain address)
      next => cases named
    next => cases named
  next => cases named

end Schema
end SwaggerGate
