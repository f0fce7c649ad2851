import SwaggerGate.Proofs.Yaml.Plain

/-! The part of JSON that is read alike as a flow collection. Layout has no tabs, a key and its
colon stand close together on one line, exponents have signs and stand after fractions, strings
hold no character that structures a text or that no text may hold, and the halves of a character
are not written by their codes one after the other. -/
namespace SwaggerGate.Json

open Yaml (Flow)

/-! ### The shared part -/

def Blanks.isShared (b : Blanks) : Bool := b.chars.all fun c => c == ' ' || c == '\n'

def Piece.isShared : Piece → Bool
  | raw c _ => Yaml.isAllowed c && !Yaml.isBreak c
  | _ => true

def areShared : List Piece → Bool
  | [] => true
  | [p] => p.isShared
  | p :: q :: rest => p.isShared && !p.arePair q && areShared (q :: rest)

/-- The colon stands on the line of the key, and near enough. -/
def Key.isShared (k : Key) : Bool :=
  areShared k.pieces && k.before.chars.all (· == ' ') && k.after.isShared
    && (quoted k.pieces).length + k.before.chars.length ≤ Yaml.Scanner.keyReach

mutual
def Written.isShared : Written → Bool
  | .word _ => true
  | .number n => n.isShared
  | .string pieces => areShared pieces
  | .emptyArray inside => inside.isShared
  | .array lead items => lead.isShared && items.areShared
  | .emptyObject inside => inside.isShared
  | .object lead members => lead.isShared && members.areShared
def Elements.areShared : Elements → Bool
  | .last v after => v.isShared && after.isShared
  | .more v after lead rest => v.isShared && after.isShared && lead.isShared && rest.areShared
def Members.areShared : Members → Bool
  | .last key v after => key.isShared && v.isShared && after.isShared
  | .more key v after lead rest => key.isShared && v.isShared && after.isShared && lead.isShared && rest.areShared
end

def FullText.isShared (t : FullText) : Bool := t.lead.isShared && t.root.isShared && t.trail.isShared

/-! ### Values as flow collections -/

mutual
def Written.flow : Written → Flow
  | .word w => .scalar w.text true
  | .number n => .scalar n.text true
  | .string pieces => .scalar (chars pieces) false
  | .emptyArray _ => .sequence []
  | .array _ items => .sequence items.flows
  | .emptyObject _ => .mapping []
  | .object _ members => .mapping members.flows
def Elements.flows : Elements → List Flow
  | .last v _ => [v.flow]
  | .more v _ _ rest => v.flow :: rest.flows
def Members.flows : Members → List (List Char × Flow)
  | .last key v _ => [(chars key.pieces, v.flow)]
  | .more key v _ _ rest => (chars key.pieces, v.flow) :: rest.flows
end

mutual
theorem Written.depth_flow : ∀ v : Written, v.flow.depth = v.depth
  | .word _ | .number _ | .string _ | .emptyArray _ | .emptyObject _ => rfl
  | .array _ items => by rw [Written.flow, Flow.depth, items.depth_flows, Written.depth]
  | .object _ members => by rw [Written.flow, Flow.depth, members.depth_flows, Written.depth]
theorem Elements.depth_flows : ∀ items : Elements, Flow.itemsDepth items.flows = items.depth
  | .last v _ => by rw [Elements.flows, Flow.itemsDepth, v.depth_flow, Flow.itemsDepth, Elements.depth, Nat.max_zero]
  | .more v _ _ rest => by rw [Elements.flows, Flow.itemsDepth, v.depth_flow, rest.depth_flows, Elements.depth]
theorem Members.depth_flows : ∀ members : Members, Flow.entriesDepth members.flows = members.depth
  | .last _ v _ => by rw [Members.flows, Flow.entriesDepth, v.depth_flow, Flow.entriesDepth, Members.depth, Nat.max_zero]
  | .more _ v _ _ rest => by rw [Members.flows, Flow.entriesDepth, v.depth_flow, rest.depth_flows, Members.depth]
end

mutual
/-- A value means the same as a flow collection. -/
theorem Written.means : ∀ v : Written, v.isShared = true → v.isShort = true → v.flow.Means v.value
  | .word w, _, _ => .scalar w.isAtom_text
  | .number n, shared, short => .scalar (n.isAtom_text shared (by simpa [Written.isShort] using short))
  | .string pieces, _, _ => .scalar (isAtom_quoted (chars pieces))
  | .emptyArray _, _, _ => .sequence .nil
  | .array _ items, shared, short => .sequence (items.mean (Bool.and_eq_true_iff.1 shared).2 short)
  | .emptyObject _, _, _ => .mapping .nil
  | .object _ members, shared, short => .mapping (members.mean (Bool.and_eq_true_iff.1 shared).2 short)
theorem Elements.mean : ∀ items : Elements, items.areShared = true → items.areShort = true →
    Flow.MeanItems items.flows items.values
  | .last v _, shared, short => .cons (v.means (Bool.and_eq_true_iff.1 shared).1 short) .nil
  | .more v _ _ rest, shared, short => by
    simp only [Elements.areShared, Elements.areShort, Bool.and_eq_true] at shared short
    obtain ⟨⟨⟨first, -⟩, -⟩, others⟩ := shared
    exact .cons (v.means first short.1) (rest.mean others short.2)
theorem Members.mean : ∀ members : Members, members.areShared = true → members.areShort = true →
    Flow.MeanEntries members.flows members.entries
  | .last key v _, shared, short => by
    simp only [Members.areShared, Members.areShort, Bool.and_eq_true] at shared short
    exact .cons (v.means shared.1.2 short) .nil
  | .more key v _ _ rest, shared, short => by
    simp only [Members.areShared, Members.areShort, Bool.and_eq_true] at shared short
    obtain ⟨⟨⟨⟨-, first⟩, -⟩, -⟩, others⟩ := shared
    exact .cons (v.means first short.1) (rest.mean others short.2)
end

end SwaggerGate.Json
