import SwaggerGate.Proofs.Schema.Compiled
import SwaggerGate.Response
import SwaggerGate.Source

/-! The definitions of documents. Reading gives an object under every name, and neither
merging nor widening changes that. -/
namespace SwaggerGate

open Schema

theorem mem_of_mapM {ε α β : Type} {f : α → Except ε β} {l : List α} {results : List β} (ok : l.mapM f = .ok results) :
    ∀ b ∈ results, ∃ a ∈ l, f a = .ok b :=
  fun _ member => exists_related (forall₂_of_mapM ok) member

/-- What holds of every reading holds of the entries of a section. -/
private theorem section_read {α : Type} {P : α → Prop} {read : Reading.Place → Value → Reading α}
    (each : ∀ place v, P (read place v).value) (place : Reading.Place) (written name : String)
    (fields : List (Atom × Value)) :
    ∀ entry ∈ (Reading.field (Reading.table read) place written name [] fields).value, P entry.2 := by
  intro entry member
  unfold Reading.field at member
  split at member
  · unfold Reading.table at member
    split at member
    · rcases Entries.mem_putAll member with old | new
      · cases old
      · obtain ⟨r, inside, rfl⟩ := List.mem_map.1 new
        obtain ⟨⟨key, v⟩, -, rfl⟩ := List.mem_map.1 inside
        dsimp only
        split <;> exact each _ v
    · cases member
  · cases member

theorem Document.read_objects (v : Value) : AreObjects (Document.read v).value.definitions := by
  cases v with
  | obj fields => exact section_read (fun _ _ => ⟨_, rfl⟩) [] "definitions" "definitions" _
  | _ => exact fun _ member => by cases member

/-- The methods of a path are those that have an entry other than null. -/
theorem PathItem.methods_readEndpoints (place : Reading.Place) (fields : List (Atom × Value)) :
    (readEndpoints place fields).value.map Prod.fst =
      Method.all.filter fun method => match fields.lookup (.text method.name) with
        | none | some .null => false
        | some _ => true := by
  rw [← List.filterMap_eq_filter]
  simp only [readEndpoints, List.map_filterMap]
  refine List.filterMap_congr fun method _ => ?_
  split
  next absent => simp [Option.guard, absent]
  next null => simp [Option.guard, null]
  next v notNull there =>
    simp only [Option.guard, there]
    split
    · simp
    · simp_all

/-- Every path of a document declares a method at most once. -/
theorem Document.read_methods (v : Value) :
    ∀ path ∈ (Document.read v).value.paths, (path.2.endpoints.map Prod.fst).Nodup := by
  have each (place : Reading.Place) (v : Value) : ((PathItem.read place v).value.endpoints.map Prod.fst).Nodup := by
    unfold PathItem.read Reading.object
    split
    · dsimp only
      rw [PathItem.methods_readEndpoints]
      exact List.Nodup.filter _ (by decide)
    · exact List.nodup_nil
  cases v with
  | obj fields =>
    exact section_read (P := fun path : PathItem => (path.endpoints.map Prod.fst).Nodup) each [] "paths" "paths" _
  | _ => exact fun _ member => by cases member

theorem Merged.ofDocuments_objects {documents : List Document}
    (each : ∀ document ∈ documents, AreObjects document.definitions) :
    AreObjects (Merged.ofDocuments documents).definitions := by
  suffices grows : ∀ merged : Merged, AreObjects merged.definitions →
      AreObjects (documents.foldl Merged.add merged).definitions from grows {} nofun
  induction documents with
  | nil => exact fun _ objects => objects
  | cons document rest ih =>
    intro merged objects
    refine ih (fun other member => each other (List.mem_cons_of_mem _ member)) (merged.add document) ?_
    intro entry member
    rcases Entries.mem_putAll member with old | new
    · exact objects entry old
    · exact each document List.mem_cons_self entry new

/-- The documents of sources are readings of data. -/
theorem Source.eq_read_of_mem {files : Files} {sources : List Source} {documents : List Document}
    (read : Source.documents files sources = .ok documents) {document : Document} (member : document ∈ documents) :
    ∃ v, document = (Document.read v).value := by
  obtain ⟨source, -, ok⟩ := mem_of_mapM read document member
  obtain ⟨v, -, ok⟩ := bind_eq_ok.1 ok
  split at ok
  next found =>
    cases ok
    unfold Document.ofValue Reading.result at found
    split at found
    · cases found
      exact ⟨v, rfl⟩
    · cases found
  next => cases ok

/-- All definitions of the documents of sources are objects. -/
theorem Source.documents_objects {files : Files} {sources : List Source} {documents : List Document}
    (read : Source.documents files sources = .ok documents) :
    AreObjects (Merged.ofDocuments documents).definitions := by
  apply Merged.ofDocuments_objects
  intro document member
  obtain ⟨v, rfl⟩ := Source.eq_read_of_mem read member
  exact Document.read_objects v

theorem ResponseValidator.widened_objects {definitions widened : Definitions} (objects : AreObjects definitions)
    (ok : ResponseValidator.widened definitions = .ok widened) : AreObjects widened := by
  intro entry member
  obtain ⟨⟨name, v⟩, inside, ok⟩ := mem_of_mapM ok entry member
  obtain ⟨fields, same⟩ := objects _ inside
  obtain rfl : v = .obj fields := same
  obtain ⟨w, widens, ok⟩ := bind_eq_ok.1 ok
  obtain ⟨inner, -, widens⟩ := bind_eq_ok.1 widens
  cases widens
  cases ok
  exact ⟨inner, rfl⟩

/-- All definitions that responses are validated against are objects. -/
theorem ResponseValidator.ofDocuments_objects {files : Files} {sources : List Source} {documents : List Document}
    {validator : ResponseValidator} (read : Source.documents files sources = .ok documents)
    (ok : ResponseValidator.ofDocuments documents = .ok validator) : AreObjects validator.definitions := by
  obtain ⟨widened, widens, ok⟩ := bind_eq_ok.1 ok
  cases ok
  exact ResponseValidator.widened_objects (Source.documents_objects read) widens

end SwaggerGate
