/-! Ordered entry lists: the pairs of a mapping, in the order in which their keys
were first written. Reading is `List.lookup`; a later write to a known key keeps
its place. -/
namespace SwaggerGate

abbrev Entries (κ ν : Type) := List (κ × ν)

namespace Entries

variable {κ ν : Type} [DecidableEq κ]

/-- Writes a value under a key: in place if the key is known, else at the end. -/
def put (key : κ) (value : ν) : List (κ × ν) → List (κ × ν)
  | [] => [(key, value)]
  | (k, v) :: rest => if k = key then (k, value) :: rest else (k, v) :: put key value rest

/-- Writes a value only if its key is new. -/
def putNew (key : κ) (value : ν) (entries : List (κ × ν)) : List (κ × ν) :=
  if (entries.lookup key).isSome then entries else entries ++ [(key, value)]

/-- Writes every entry of `later` over `entries`, in order. -/
def putAll (entries later : List (κ × ν)) : List (κ × ν) :=
  later.foldl (fun written entry => put entry.1 entry.2 written) entries

def ofList (pairs : List (κ × ν)) : List (κ × ν) := putAll [] pairs

omit [DecidableEq κ] in
def keys (entries : List (κ × ν)) : List κ := entries.map Prod.fst

theorem lookup_cons_if (key other : κ) (value : ν) (rest : List (κ × ν)) :
    List.lookup other ((key, value) :: rest) = if other = key then some value else rest.lookup other := by
  rw [List.lookup_cons]
  by_cases h : other = key
  · simp [h]
  · simp [h, beq_false_of_ne]

@[simp] theorem lookup_put (key other : κ) (value : ν) (entries : List (κ × ν)) :
    (put key value entries).lookup other = if other = key then some value else entries.lookup other := by
  induction entries with
  | nil => rw [put, lookup_cons_if]
  | cons entry rest ih =>
    obtain ⟨k, v⟩ := entry
    by_cases hk : k = key
    · subst hk
      by_cases h : other = k <;> simp [put, lookup_cons_if, h]
    · by_cases h : other = k
      · subst h; simp [put, hk]
      · simp [put, lookup_cons_if, hk, h, ih]

end Entries
end SwaggerGate
