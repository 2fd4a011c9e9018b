/-!
# Matching

A pattern is what a regular expression means: sets of characters, conditions on a place, sequences,
alternatives and repetitions. Matching computes the places where a match that starts at one of the
given places can end, so preferences among matches do not arise. `Spans` says the same as a relation
between the start and the end of a match.
-/

namespace ObjectConstraints

inductive Pattern where
  | empty
  | chars (set : Char → Bool)
  | look (holds : Option Char → Option Char → Bool)
  | seq (first second : Pattern)
  | either (left right : Pattern)
  | repeated (body : Pattern) (least : Nat) (most : Option Nat)

namespace Pattern

/-- The condition on the characters around a place. -/
def holdsAt (text : Array Char) (holds : Option Char → Option Char → Bool) (place : Nat) : Bool :=
  holds (if place = 0 then none else text[place - 1]?) text[place]?

/-- `Spans text p i j` says that `p` matches the text from place `i` to place `j`. -/
inductive Spans (text : Array Char) : Pattern → Nat → Nat → Prop where
  | empty (i : Nat) : Spans text .empty i i
  | chars {set : Char → Bool} {i : Nat} {c : Char} (at_place : text[i]? = some c)
      (in_set : set c = true) : Spans text (.chars set) i (i + 1)
  | look {holds : Option Char → Option Char → Bool} {i : Nat}
      (there : holdsAt text holds i = true) : Spans text (.look holds) i i
  | seq {p q : Pattern} {i j k : Nat} (first : Spans text p i j) (second : Spans text q j k) :
      Spans text (.seq p q) i k
  | left {p q : Pattern} {i j : Nat} (h : Spans text p i j) : Spans text (.either p q) i j
  | right {p q : Pattern} {i j : Nat} (h : Spans text q i j) : Spans text (.either p q) i j
  | done {p : Pattern} {most : Option Nat} (i : Nat) : Spans text (.repeated p 0 most) i i
  /-- A round is made while some are due or more are allowed. -/
  | round {p : Pattern} {least : Nat} {most : Option Nat} {i j k : Nat}
      (room : 0 < least ∨ most ≠ some 0) (first : Spans text p i j)
      (more : Spans text (.repeated p (least - 1) (most.map (· - 1))) j k) :
      Spans text (.repeated p least most) i k

/-- Places of both lists, each once. -/
def mergePlaces (xs ys : List Nat) : List Nat :=
  xs ++ ys.filter (!xs.contains ·)

/-- Exactly `n` rounds. Once a round changes nothing no further one does. -/
def rounds (step : List Nat → List Nat) : Nat → List Nat → List Nat
  | 0, places => places
  | n + 1, places =>
    let next := step places
    if next == places then places else rounds step n next

/-- Up to `n` rounds, all places met on the way. -/
def upTo (step : List Nat → List Nat) : Nat → List Nat → List Nat
  | 0, places => places
  | n + 1, places =>
    let next := mergePlaces places (step places)
    if next.length == places.length then places else upTo step n next

/-- The places where matches that start at the given places end. -/
def ends (text : Array Char) : Pattern → List Nat → List Nat
  | .empty, places => places
  | .chars set, places =>
    places.filterMap fun i =>
      match text[i]? with
      | some c => if set c then some (i + 1) else none
      | none => none
  | .look holds, places => places.filter (holdsAt text holds)
  | .seq p q, places => ends text q (ends text p places)
  | .either p q, places => mergePlaces (ends text p places) (ends text q places)
  | .repeated p least most, places =>
    let start := rounds (ends text p) least places
    match most with
    | some most => upTo (ends text p) (most - least) start
    | none => upTo (ends text p) (text.size + 1) start

def matchesIn (p : Pattern) (text : String) : Bool :=
  let chars := text.toList.toArray
  !(ends chars p (List.range (chars.size + 1))).isEmpty

end Pattern

end ObjectConstraints
