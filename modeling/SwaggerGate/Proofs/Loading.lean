import SwaggerGate.Proofs.Yaml.Texts
import SwaggerGate.Source

/-! Files of JSON read as description files. Description files have one reader whatever their
suffix, and the shared part of JSON means the same to it. -/
namespace SwaggerGate

namespace Json

theorem Written.value_object {v : Written} (object : v.isObject = true) : ∃ fields, v.value = .obj fields := by
  cases v with
  | emptyObject inside => exact ⟨_, rfl⟩
  | object lead members => exact ⟨_, rfl⟩
  | _ => cases object

end Json

namespace Source

variable {files : Files} {name : PathName}

/-- A file of a known kind holds what its text is read as. -/
theorem load_read {text : List Char} {fields : List (Atom × Value)} (kind : Text.lower name.suffix ∈ suffixes)
    (found : files.text name = .ok text) (read : Yaml.read text = .ok (.obj fields)) : load files name = .ok fields := by
  have known : suffixes.contains (Text.lower name.suffix) = true := List.contains_iff_mem.2 kind
  simp only [load, known, Bool.not_true, Bool.false_eq_true, if_false, found, read]

/-- A file with an object of the shared part of JSON is loaded as the object that JSON decoding
gives. -/
theorem load_json {t : Json.FullText} (kind : Text.lower name.suffix = ".json") (found : files.text name = .ok t.chars)
    (object : t.root.isObject = true) (shared : t.isShared = true) (short : t.root.isShort = true)
    (shallow : t.root.depth ≤ Yaml.Graph.nestingLimit) :
    ∃ fields, Json.read (String.ofList t.chars) = .ok (.obj fields) ∧ load files name = .ok fields := by
  obtain ⟨fields, value⟩ := Json.Written.value_object object
  have limits : Yaml.Graph.nestingLimit ≤ Json.nestingLimit := by decide
  have json := t.read short (Nat.le_trans shallow limits)
  have yaml := Yaml.read_text t object shared short shallow
  rw [value] at json yaml
  exact ⟨fields, json, load_read (kind ▸ by decide) found yaml⟩

/-- An object with a list of a number and a text. -/
def listed : Json.FullText where
  lead := ⟨[], rfl⟩
  root := .object ⟨[], rfl⟩ (.last ⟨[.raw 'a' rfl], ⟨[], rfl⟩, ⟨[' '], rfl⟩⟩
    (.array ⟨[], rfl⟩ (.more
      (.number ⟨true, ['1'], ['5'], some ⟨'E', ['+'], ['3'], .inr rfl, .inr (.inl rfl), rfl⟩, rfl, .inr (by decide), rfl⟩)
      ⟨[], rfl⟩ ⟨[' '], rfl⟩ (.last (.string [.code ['0', '0', 'e', '9'] 0xe9 rfl rfl]) ⟨[], rfl⟩))) ⟨['\n'], rfl⟩)
  trail := ⟨['\n'], rfl⟩

theorem load_json_listed :
    Files.text (.ofList [("d.json", Text.Utf8.encode listed.chars)]) (.ofText "d.json") = .ok listed.chars ∧
      ∃ fields, Json.read (String.ofList listed.chars) = .ok (.obj fields) ∧
        load (.ofList [("d.json", Text.Utf8.encode listed.chars)]) (.ofText "d.json") = .ok fields := by
  have found : Files.text (.ofList [("d.json", Text.Utf8.encode listed.chars)]) (.ofText "d.json") = .ok listed.chars := by
    decide +kernel
  exact ⟨found, load_json (by decide +kernel) found rfl (by decide +kernel) rfl (by decide +kernel)⟩

/-- An object with a number whose exponent has no sign. -/
def unsigned : Json.FullText where
  lead := ⟨[], rfl⟩
  root := .object ⟨[], rfl⟩ (.last ⟨[.raw 'a' rfl], ⟨[], rfl⟩, ⟨[' '], rfl⟩⟩
    (.number ⟨false, ['1'], [], some ⟨'e', [], ['5'], Json.isMark_lower, .inl rfl, rfl⟩, rfl, .inr (by decide), rfl⟩) ⟨[], rfl⟩)
  trail := ⟨[], rfl⟩

/-- JSON decoding gives a number, and the file is loaded with a text in its place. -/
theorem load_json_unsigned :
    unsigned.root.isObject = true ∧
      Files.text (.ofList [("d.json", Text.Utf8.encode unsigned.chars)]) (.ofText "d.json") = .ok unsigned.chars ∧
      Json.read (String.ofList unsigned.chars) =
        .ok (.obj [(.text "a", .float (.finite false 6871947673600000 (-36)))]) ∧
      load (.ofList [("d.json", Text.Utf8.encode unsigned.chars)]) (.ofText "d.json") = .ok [(.text "a", .text "1e5")] := by
  decide +kernel

end Source

end SwaggerGate
