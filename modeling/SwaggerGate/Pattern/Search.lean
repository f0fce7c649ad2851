import SwaggerGate.Pattern
import SwaggerGate.Text.CodePoint

/-! Where a pattern matches. A match is looked for by trying one choice after the other:
a thread goes on with the preferred choice, and the others wait as alternatives, the latest
on top. What is atomic drops the alternatives that it leaves behind. -/
namespace SwaggerGate.Pattern

/-- The places where groups start and end: the mark `2 * i` is the start of group `i`, the
next one its end. -/
abbrev Marks := List (Nat × Nat)

def Marks.put (mark place : Nat) (marks : Marks) : Marks := (mark, place) :: marks.filter (·.1 != mark)

/-- The start and end of a group that has matched. -/
def Marks.group? (marks : Marks) (index : Nat) : Option (Nat × Nat) :=
  match marks.lookup (2 * index), marks.lookup (2 * index + 1) with
  | some first, some last => if first ≤ last then some (first, last) else none
  | _, _ => none

/-- A repetition under way. -/
structure Repetition where
  least : Nat
  most : Option Nat
  preference : Preference
  body : Node
  /-- The number of rounds made. -/
  count : Nat := 0
  /-- The place where the last round that was not needed started. -/
  last : Option Nat := none
deriving DecidableEq, Repr

/-- A thing left to do in a match. A height is a number of alternatives. -/
inductive Task where
  | node (n : Node)
  | mark (index : Nat)
  | round (r : Repetition)
  /-- Drops the alternatives above a height. -/
  | commit (height : Nat)
  /-- Drops the alternatives above a height and goes on at a place. -/
  | resume (height place : Nat)
  /-- Drops the alternatives above a height and gives up. -/
  | refuse (height : Nat)
deriving DecidableEq, Repr

/-- A match under way. -/
structure Thread where
  place : Nat
  marks : Marks := []
  tasks : List Task
deriving DecidableEq, Repr

/-- A thread that waits. It can go on at its place, and then at each earlier one down to
`least`. -/
structure Alternative where
  thread : Thread
  least : Nat
deriving DecidableEq, Repr

def Thread.alternative (t : Thread) : Alternative := ⟨t, t.place⟩

/-- What a step of a search leads to. -/
inductive Turn where
  | found
  | exhausted
  | going (thread : Thread) (alternatives : Array Alternative)

namespace Turn

/-- Gives the thread up for the latest alternative. -/
def giveUp (alternatives : Array Alternative) : Turn :=
  match alternatives.back? with
  | none => .exhausted
  | some a =>
    let others := alternatives.pop
    if a.least < a.thread.place then
      .going a.thread (others.push { a with thread := { a.thread with place := a.thread.place - 1 } })
    else .going a.thread others

/-- Goes on with a thread or else with the latest alternative. -/
def proceed (alternatives : Array Alternative) : Option Thread → Turn
  | some t => .going t alternatives
  | none => giveUp alternatives

end Turn

/-- The number of characters from a place on that pass a test, up to a bound. -/
def runLength (text : Array Nat) (test : CharTest) : Nat → Nat → Nat
  | 0, _ => 0
  | bound + 1, place =>
    match text[place]? with
    | some c => if test.holds c then runLength text test bound (place + 1) + 1 else 0
    | none => 0

/-- Whether two stretches of a text are the same up to case. -/
def sameStretch (text : Array Nat) (f : Folding) : Nat → Nat → Nat → Bool
  | 0, _, _ => true
  | n + 1, a, b =>
    match text[a]?, text[b]? with
    | some c, some d => f.lower c == f.lower d && sameStretch text f n (a + 1) (b + 1)
    | _, _ => false

/-- The test of a node that is one character. -/
def Node.unit? : Node → Option CharTest
  | .char test => some test
  | .group none body => body.unit?
  | _ => none

section Steps

variable (text : Array Nat)

/-- Goes over a run of single characters, as many as there are and then fewer. -/
def stepRun (test : CharTest) (least : Nat) (most : Option Nat) (preference : Preference) (t : Thread)
    (alternatives : Array Alternative) : Turn :=
  let available := text.size - t.place
  let length := runLength text test (match most with
    | some m => min m available
    | none => available) t.place
  if length < least then .giveUp alternatives
  else
    let ahead := { t with place := t.place + length }
    if preference = .greedy ∧ least < length then
      .going ahead (alternatives.push ⟨{ t with place := t.place + length - 1 }, t.place + least⟩)
    else .going ahead alternatives

/-- Decides about one more round of a repetition. A round that is not needed must not start
where the last such round did. -/
def stepRound (r : Repetition) (t : Thread) (alternatives : Array Alternative) : Turn :=
  let again (last : Option Nat) (cut : List Task) : Thread :=
    { t with tasks := .node r.body :: (cut ++ .round { r with count := r.count + 1, last } :: t.tasks) }
  let cut := if r.preference = .possessive then [Task.commit alternatives.size] else []
  if r.count < r.least then .going (again r.last cut) alternatives
  else if r.most.all (r.count < ·) && r.last != some t.place then
    match r.preference with
    | .greedy => .going (again (some t.place) []) (alternatives.push t.alternative)
    | .lazy => .going t (alternatives.push (again (some t.place) []).alternative)
    | .possessive => .going (again (some t.place) cut) (alternatives.push t.alternative)
  else .going t alternatives

/-- Starts on a node. -/
def stepNode (n : Node) (t : Thread) (alternatives : Array Alternative) : Turn :=
  match n with
  | .empty => .going t alternatives
  | .char test => .proceed alternatives <| match text[t.place]? with
    | some c => if test.holds c then some { t with place := t.place + 1 } else none
    | none => none
  | .anchor a => .proceed alternatives (if a.holds text t.place then some t else none)
  | .seq first second => .going { t with tasks := .node first :: .node second :: t.tasks } alternatives
  | .alt left right => .going { t with tasks := .node left :: t.tasks }
      (alternatives.push { t with tasks := .node right :: t.tasks : Thread }.alternative)
  | .many least most preference body =>
    match preference, body.unit? with
    | .lazy, _ | _, none =>
      .going { t with tasks := .round { least, most, preference, body } :: t.tasks } alternatives
    | preference, some test => stepRun text test least most preference t alternatives
  | .group none body => .going { t with tasks := .node body :: t.tasks } alternatives
  | .group (some index) body => .going
      { t with marks := t.marks.put (2 * index) t.place
               tasks := .node body :: .mark (2 * index + 1) :: t.tasks } alternatives
  | .atomic body =>
    .going { t with tasks := .node body :: .commit alternatives.size :: t.tasks } alternatives
  | .ahead false body =>
    .going { t with tasks := .node body :: .resume alternatives.size t.place :: t.tasks } alternatives
  | .ahead true body =>
    .going { t with tasks := [.node body, .refuse alternatives.size] } (alternatives.push t.alternative)
  | .behind negated width body =>
    if t.place < width then .proceed alternatives (if negated then some t else none)
    else
      let back := { t with place := t.place - width }
      if negated then
        .going { back with tasks := [.node body, .refuse alternatives.size] } (alternatives.push t.alternative)
      else .going { back with tasks := .node body :: .resume alternatives.size t.place :: t.tasks } alternatives
  | .backref index folding => .proceed alternatives <| match t.marks.group? index with
    | some (first, last) =>
      let length := last - first
      if sameStretch text folding length first t.place then some { t with place := t.place + length } else none
    | none => none
  | .choice index yes no =>
    let chosen := if (t.marks.group? index).isSome then yes else no
    .going { t with tasks := .node chosen :: t.tasks } alternatives

/-- One step of a search: the first task of the thread. -/
def step (t : Thread) (alternatives : Array Alternative) : Turn :=
  match t.tasks with
  | [] => .found
  | task :: rest =>
    let t := { t with tasks := rest }
    match task with
    | .node n => stepNode text n t alternatives
    | .mark index => .going { t with marks := t.marks.put index t.place } alternatives
    | .round r => stepRound r t alternatives
    | .commit height => .going t (alternatives.shrink height)
    | .resume height place => .going { t with place } (alternatives.shrink height)
    | .refuse height => .giveUp (alternatives.shrink height)

/-- Runs a search for a number of steps. -/
def runThread : Nat → Thread → Array Alternative → Bool
  | 0, _, _ => false
  | fuel + 1, t, alternatives =>
    match step text t alternatives with
    | .found => true
    | .exhausted => false
    | .going t alternatives => runThread fuel t alternatives

end Steps

/-- More steps than any search can be waited for. -/
def patience : Nat := 1 <<< 62

/-- Whether a node matches from some place of a text on, among the last `n + 1` places. -/
def searchLast (node : Node) (text : Array Nat) : Nat → Bool
  | 0 => runThread text patience { place := text.size, tasks := [.node node] } #[]
  | n + 1 =>
    runThread text patience { place := text.size - (n + 1), tasks := [.node node] } #[] || searchLast node text n

/-- Whether a node matches somewhere in a text. -/
def search (node : Node) (text : String) : Bool :=
  let codes := (text.toList.map Text.codePoint).toArray
  searchLast node codes codes.size

end SwaggerGate.Pattern
